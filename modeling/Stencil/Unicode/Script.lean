import Stencil.Unicode.Run

/-!
# Scripts

Every character belongs to one script.  Some characters are used with several scripts, or with
others than their own; the table of extensions lists these scripts.
-/

namespace Stencil.Unicode

/-- The runs of code points of one script. -/
def scriptRuns : List Run := Run.ofText (String.join [
    "Zyyy65Latn26Zyyy6Latn26Zyyy47LatnZyyy15LatnZyyy5Latn23ZyyyLatn31ZyyyLatn449Zyyy39Latn5Zyyy5",
    "Bopo2Zyyy20Zinh112Grek4ZyyyGrek3Zzzz2Grek4ZyyyGrekZzzz4GrekZyyyGrekZyyyGrek3ZzzzGrekZzzz",
    "Grek20ZzzzGrek63Copt14Grek16Cyrl133Zinh2Cyrl169ZzzzArmn38Zzzz2Armn50Zzzz2Armn3ZzzzHebr55",
    "Zzzz8Hebr27Zzzz4Hebr6Zzzz11Arab5ZyyyArab6ZyyyArab14ZyyyArab3ZyyyArab32ZyyyArab10Zinh11",
    "Arab26ZinhArab108ZyyyArab34Syrc14ZzzzSyrc60Zzzz2Syrc3Arab48Thaa50Zzzz14Nkoo59Zzzz2Nkoo3",
    "Samr46Zzzz2Samr15ZzzzMand28Zzzz2MandZzzzSyrc11Zzzz5Arab31ZzzzArab2Zzzz5Arab75ZyyyArab29",
    "Deva81Zinh4Deva15Zyyy2Deva26Beng4ZzzzBeng8Zzzz2Beng2Zzzz2Beng22ZzzzBeng7ZzzzBengZzzz3Beng4",
    "Zzzz2Beng9Zzzz2Beng2Zzzz2Beng4Zzzz8BengZzzz4Beng2ZzzzBeng5Zzzz2Beng25Zzzz2Guru3ZzzzGuru6",
    "Zzzz4Guru2Zzzz2Guru22ZzzzGuru7ZzzzGuru2ZzzzGuru2ZzzzGuru2Zzzz2GuruZzzzGuru5Zzzz4Guru2Zzzz2",
    "Guru3Zzzz3GuruZzzz7Guru4ZzzzGuruZzzz7Guru17Zzzz10Gujr3ZzzzGujr9ZzzzGujr3ZzzzGujr22ZzzzGujr7",
    "ZzzzGujr2ZzzzGujr5Zzzz2Gujr10ZzzzGujr3ZzzzGujr3Zzzz2GujrZzzz15Gujr4Zzzz2Gujr12Zzzz7Gujr7",
    "ZzzzOrya3ZzzzOrya8Zzzz2Orya2Zzzz2Orya22ZzzzOrya7ZzzzOrya2ZzzzOrya5Zzzz2Orya9Zzzz2Orya2Zzzz2",
    "Orya3Zzzz7Orya3Zzzz4Orya2ZzzzOrya5Zzzz2Orya18Zzzz10Taml2ZzzzTaml6Zzzz3Taml3ZzzzTaml4Zzzz3",
    "Taml2ZzzzTamlZzzzTaml2Zzzz3Taml2Zzzz3Taml3Zzzz3Taml12Zzzz4Taml5Zzzz3Taml3ZzzzTaml4Zzzz2Taml",
    "Zzzz6TamlZzzz14Taml21Zzzz5Telu13ZzzzTelu3ZzzzTelu23ZzzzTelu16Zzzz2Telu9ZzzzTelu3ZzzzTelu4",
    "Zzzz7Telu2ZzzzTelu3Zzzz2TeluZzzz2Telu4Zzzz2Telu10Zzzz7Telu9Knda13ZzzzKnda3ZzzzKnda23Zzzz",
    "Knda10ZzzzKnda5Zzzz2Knda9ZzzzKnda3ZzzzKnda4Zzzz7Knda2Zzzz6Knda2ZzzzKnda4Zzzz2Knda10Zzzz",
    "Knda3Zzzz12Mlym13ZzzzMlym3ZzzzMlym51ZzzzMlym3ZzzzMlym6Zzzz4Mlym16Zzzz2Mlym26ZzzzSinh3Zzzz",
    "Sinh18Zzzz3Sinh24ZzzzSinh9ZzzzSinhZzzz2Sinh7Zzzz3SinhZzzz4Sinh6ZzzzSinhZzzzSinh8Zzzz6Sinh10",
    "Zzzz2Sinh3Zzzz12Thai58Zzzz4ZyyyThai28Zzzz37Laoo2ZzzzLaooZzzzLaoo5ZzzzLaoo24ZzzzLaooZzzz",
    "Laoo23Zzzz2Laoo5ZzzzLaooZzzzLaoo7ZzzzLaoo10Zzzz2Laoo4Zzzz32Tibt72ZzzzTibt36Zzzz4Tibt39Zzzz",
    "Tibt36ZzzzTibt15ZzzzTibt7Zyyy4Tibt2Zzzz37Mymr160Geor38ZzzzGeorZzzz5GeorZzzz2Geor43ZyyyGeor4",
    "Hang256Ethi73ZzzzEthi4Zzzz2Ethi7ZzzzEthiZzzzEthi4Zzzz2Ethi41ZzzzEthi4Zzzz2Ethi33ZzzzEthi4",
    "Zzzz2Ethi7ZzzzEthiZzzzEthi4Zzzz2Ethi15ZzzzEthi57ZzzzEthi4Zzzz2Ethi67Zzzz2Ethi32Zzzz3Ethi26",
    "Zzzz6Cher86Zzzz2Cher6Zzzz2Cans640Ogam29Zzzz3Runr75Zyyy3Runr11Zzzz7Tglg22Zzzz9TglgHano21",
    "Zyyy2Zzzz9Buhd20Zzzz12Tagb13ZzzzTagb3ZzzzTagb2Zzzz12Khmr94Zzzz2Khmr10Zzzz6Khmr10Zzzz6Mong2",
    "Zyyy2MongZyyyMong20Zzzz6Mong89Zzzz7Mong43Zzzz5Cans70Zzzz10Limb31ZzzzLimb12Zzzz4Limb12Zzzz4",
    "LimbZzzz3Limb12Tale30Zzzz2Tale5Zzzz11Talu44Zzzz4Talu26Zzzz6Talu11Zzzz3Talu2Khmr32Bugi28",
    "Zzzz2Bugi2Lana63ZzzzLana29Zzzz2Lana11Zzzz6Lana10Zzzz6Lana14Zzzz2Zinh31Zzzz49Bali77Zzzz",
    "Bali50Sund64Batk52Zzzz8Batk4Lepc56Zzzz3Lepc15Zzzz3Lepc3Olck48Cyrl11Zzzz5Geor43Zzzz2Geor3",
    "Sund8Zzzz8Zinh3ZyyyZinh13ZyyyZinh7Zyyy4ZinhZyyy6ZinhZyyy3Zinh2ZyyyZzzz5Latn38Grek5Cyrl",
    "Latn49Grek5Latn4Grek5Latn13CyrlLatn70GrekZinh64Latn256Grek22Zzzz2Grek6Zzzz2Grek38Zzzz2Grek6",
    "Zzzz2Grek8ZzzzGrekZzzzGrekZzzzGrekZzzzGrek31Zzzz2Grek53ZzzzGrek15ZzzzGrek14Zzzz2Grek6Zzzz",
    "Grek19Zzzz2Grek3ZzzzGrek9ZzzzZyyy12Zinh2Zyyy87ZzzzZyyy11LatnZzzz2Zyyy11LatnZyyy15ZzzzLatn13",
    "Zzzz3Zyyy33Zzzz15Zinh33Zzzz15Zyyy38GrekZyyy3Latn2Zyyy6LatnZyyy27LatnZyyy17Latn41Zyyy3Zzzz4",
    "Zyyy666Zzzz22Zyyy11Zzzz21Zyyy928Brai256Zyyy628Zzzz2Zyyy32ZzzzZyyy105Glag96Latn32Copt116",
    "Zzzz5Copt7Geor38ZzzzGeorZzzz5GeorZzzz2Tfng56Zzzz7Tfng2Zzzz14TfngEthi23Zzzz9Ethi7ZzzzEthi7",
    "ZzzzEthi7ZzzzEthi7ZzzzEthi7ZzzzEthi7ZzzzEthi7ZzzzEthi7ZzzzCyrl32Zyyy94Zzzz34Hani26Zzzz",
    "Hani89Zzzz12Hani214Zzzz26Zyyy21HaniZyyyHaniZyyy25Hani9Zinh4Hang2Zyyy8Hani4Zyyy4ZzzzHira86",
    "Zzzz2Zinh2Zyyy2Hira3ZyyyKana90Zyyy2Kana3Zzzz5Bopo43ZzzzHang94ZzzzZyyy16Bopo32Zyyy38Zzzz9",
    "ZyyyKana16Hang31ZzzzZyyy64Hang31Zyyy81Kana47ZyyyKana88Zyyy168Hani6592Zyyy64Hani20992",
    "Yiii1165Zzzz3Yiii55Zzzz9Lisu48Vaii300Zzzz20Cyrl96Bamu88Zzzz8Zyyy34Latn102Zyyy3Latn67Zzzz2",
    "Latn2ZzzzLatnZzzzLatn8Zzzz21Latn14Sylo45Zzzz3Zyyy10Zzzz6Phag56Zzzz8Saur70Zzzz8Saur12Zzzz6",
    "Deva32Kali46ZyyyKaliRjng36Zzzz11RjngHang29Zzzz3Java78ZzzzZyyyJava10Zzzz4Java2Mymr31Zzzz",
    "Cham55Zzzz9Cham14Zzzz2Cham10Zzzz2Cham4Mymr32Tavt67Zzzz24Tavt5Mtei23Zzzz10Ethi6Zzzz2Ethi6",
    "Zzzz2Ethi6Zzzz9Ethi7ZzzzEthi7ZzzzLatn43ZyyyLatn9GrekLatn4Zyyy2Zzzz4Cher80Mtei46Zzzz2Mtei10",
    "Zzzz6Hang11172Zzzz12Hang23Zzzz4Hang49Zzzz8452Hani366Zzzz2Hani106Zzzz38Latn7Zzzz12Armn5Zzzz5",
    "Hebr26ZzzzHebr5ZzzzHebrZzzzHebr2ZzzzHebr2ZzzzHebr10Arab115Zzzz16Arab363Zyyy2Arab80Zzzz2",
    "Arab54Zzzz7ArabZzzz32Arab16Zinh16Zyyy10Zzzz6Zinh14Cyrl2Zyyy35ZzzzZyyy19ZzzzZyyy4Zzzz4Arab5",
    "ZzzzArab135Zzzz2ZyyyZzzzZyyy32Latn26Zyyy6Latn26Zyyy11Kana10ZyyyKana45Zyyy2Hang31Zzzz3Hang6",
    "Zzzz2Hang6Zzzz2Hang6Zzzz2Hang3Zzzz3Zyyy7ZzzzZyyy7Zzzz10Zyyy5Zzzz2Linb12ZzzzLinb26ZzzzLinb19",
    "ZzzzLinb2ZzzzLinb15Zzzz2Linb14Zzzz34Linb123Zzzz5Zyyy3Zzzz4Zyyy45Zzzz3Zyyy9Grek79ZzzzZyyy13",
    "Zzzz3GrekZzzz47Zyyy45ZinhZzzz130Lyci29Zzzz3Cari49Zzzz15ZinhZyyy27Zzzz4Ital36Zzzz9Ital3",
    "Goth27Zzzz5Perm43Zzzz5Ugar30ZzzzUgarXpeo36Zzzz4Xpeo14Zzzz42Dsrt80Shaw48Osma30Zzzz2Osma10",
    "Zzzz6Osge36Zzzz4Osge36Zzzz4Elba40Zzzz8Aghb52Zzzz11AghbVith11ZzzzVith15ZzzzVith7ZzzzVith2",
    "ZzzzVith11ZzzzVith15ZzzzVith7ZzzzVith2Zzzz3Todr52Zzzz12Lina311Zzzz9Lina22Zzzz10Lina8Zzzz24",
    "Latn6ZzzzLatn42ZzzzLatn9Zzzz69Cprt6Zzzz2CprtZzzzCprt44ZzzzCprt2Zzzz3CprtZzzz2CprtArmi22Zzzz",
    "Armi9Palm32Nbat31Zzzz8Nbat9Zzzz48Hatr19ZzzzHatr2Zzzz5Hatr5Phnx28Zzzz3PhnxLydi26Zzzz5Lydi",
    "Zzzz64Mero32Merc24Zzzz4Merc20Zzzz2Merc46Khar4ZzzzKhar2Zzzz5Khar8ZzzzKhar3ZzzzKhar29Zzzz2",
    "Khar3Zzzz4Khar10Zzzz7Khar9Zzzz7Sarb32Narb32Zzzz32Mani39Zzzz4Mani12Zzzz9Avst54Zzzz3Avst7",
    "Prti22Zzzz2Prti8Phli19Zzzz5Phli8Phlp18Zzzz7Phlp4Zzzz12Phlp7Zzzz80Orkh73Zzzz55Hung51Zzzz13",
    "Hung51Zzzz7Hung6Rohg40Zzzz8Rohg10Zzzz6Gara38Zzzz3Gara29Zzzz8Gara2Zzzz208Arab31ZzzzYezi42",
    "ZzzzYezi3Zzzz2Yezi2Zzzz16Arab3Zzzz55Arab4Sogo40Zzzz8Sogd42Zzzz22Ougr26Zzzz38Chrs28Zzzz20",
    "Elym23Zzzz9Brah78Zzzz4Brah36Zzzz9BrahKthi67Zzzz10KthiZzzz2Sora25Zzzz7Sora10Zzzz6Cakm53Zzzz",
    "Cakm18Zzzz8Mahj39Zzzz9Shrd96ZzzzSinh20Zzzz11Khoj18ZzzzKhoj47Zzzz62Mult7ZzzzMultZzzzMult4",
    "ZzzzMult15ZzzzMult11Zzzz6Sind59Zzzz5Sind10Zzzz6Gran4ZzzzGran8Zzzz2Gran2Zzzz2Gran22ZzzzGran7",
    "ZzzzGran2ZzzzGran5ZzzzZinhGran9Zzzz2Gran2Zzzz2Gran3Zzzz2GranZzzz6GranZzzz5Gran7Zzzz2Gran7",
    "Zzzz3Gran5Zzzz11Tutg10ZzzzTutgZzzz2TutgZzzzTutg38ZzzzTutg10ZzzzTutgZzzz2TutgZzzzTutg4Zzzz",
    "Tutg10ZzzzTutg2Zzzz8Tutg2Zzzz29Newa92ZzzzNewa5Zzzz30Tirh72Zzzz8Tirh10Zzzz166Sidd54Zzzz2",
    "Sidd38Zzzz34Modi69Zzzz11Modi10Zzzz6Mong13Zzzz19Takr58Zzzz6Takr10Zzzz6Mymr20Zzzz28Ahom27",
    "Zzzz2Ahom15Zzzz4Ahom23Zzzz185Dogr60Zzzz100Wara83Zzzz12WaraDiak7Zzzz2DiakZzzz2Diak8ZzzzDiak2",
    "ZzzzDiak30ZzzzDiak2Zzzz2Diak12Zzzz9Diak10Zzzz70Nand8Zzzz2Nand46Zzzz2Nand11Zzzz27Zanb72Zzzz8",
    "Soyo83Zzzz13Cans16Pauc57Zzzz7Deva10Zzzz182Sunu34Zzzz14Sunu10Zzzz6Bhks9ZzzzBhks45ZzzzBhks14",
    "Zzzz10Bhks29Zzzz3Marc32Zzzz2Marc22ZzzzMarc14Zzzz73Gonm7ZzzzGonm2ZzzzGonm44Zzzz3GonmZzzz",
    "Gonm2ZzzzGonm9Zzzz8Gonm10Zzzz6Gong6ZzzzGong2ZzzzGong37ZzzzGong2ZzzzGong6Zzzz7Gong10Zzzz310",
    "Maka25Zzzz7Kawi17ZzzzKawi41Zzzz3Kawi29Zzzz85LisuZzzz15Taml50Zzzz13TamlXsux922Zzzz102Xsux111",
    "ZzzzXsux5Zzzz11Xsux196Zzzz2636Cpmn99Zzzz13Egyp1110Zzzz10Egyp3995Zzzz5Hluw583Zzzz6841Gukh58",
    "Zzzz1734Bamu569Zzzz7Mroo31ZzzzMroo10Zzzz4Mroo2Tnsa79ZzzzTnsa10Zzzz6Bass30Zzzz2Bass6Zzzz10",
    "Hmng70Zzzz10Hmng10ZzzzHmng7ZzzzHmng21Zzzz5Hmng19Zzzz432Krai58Zzzz198Medf91Zzzz101Plrd75",
    "Zzzz4Plrd57Zzzz7Plrd17Zzzz64TangNshuHani2KitsZzzz11Hani2Zzzz14Tang6136Zzzz8Tang768Kits470",
    "Zzzz41KitsTang9Zzzz8935Kana4ZzzzKana7ZzzzKana2ZzzzKanaHira287Kana3Zzzz15HiraZzzz29Hira3",
    "Zzzz2KanaZzzz14Kana4Zzzz8Nshu396Zzzz2308Dupl107Zzzz5Dupl13Zzzz3Dupl9Zzzz7Dupl10Zzzz2Dupl4",
    "Zyyy4Zzzz3932Zyyy250Zzzz6Zyyy436Zzzz76Zinh46Zzzz2Zinh23Zzzz9Zyyy116Zzzz60Zyyy246Zzzz10",
    "Zyyy39Zzzz2Zyyy62Zinh3Zyyy17Zinh8Zyyy2Zinh7Zyyy30Zinh4Zyyy61Zzzz21Grek70Zzzz122Zyyy20Zzzz12",
    "Zyyy20Zzzz12Zyyy87Zzzz9Zyyy25Zzzz135Zyyy85ZzzzZyyy71ZzzzZyyy2Zzzz2ZyyyZzzz2Zyyy2Zzzz2Zyyy4",
    "ZzzzZyyy12ZzzzZyyyZzzzZyyy7ZzzzZyyy65ZzzzZyyy4Zzzz2Zyyy8ZzzzZyyy7ZzzzZyyy28ZzzzZyyy4Zzzz",
    "Zyyy5ZzzzZyyyZzzz3Zyyy7ZzzzZyyy340Zzzz2Zyyy292Zzzz2Zyyy50Sgnw652Zzzz15Sgnw5ZzzzSgnw15",
    "Zzzz1104Latn31Zzzz6Latn6Zzzz213Glag7ZzzzGlag17Zzzz2Glag7ZzzzGlag2ZzzzGlag5Zzzz5Cyrl62Zzzz33",
    "CyrlZzzz112Hmnp45Zzzz3Hmnp14Zzzz2Hmnp10Zzzz4Hmnp2Zzzz320Toto31Zzzz17Wcho58Zzzz5WchoZzzz464",
    "Nagm42Zzzz214Onao43Zzzz4OnaoZzzz480Ethi7ZzzzEthi4ZzzzEthi2ZzzzEthi15ZzzzMend197Zzzz2Mend16",
    "Zzzz41Adlm76Zzzz4Adlm10Zzzz4Adlm2Zzzz785Zyyy68Zzzz76Zyyy61Zzzz194Arab4ZzzzArab27ZzzzArab2",
    "ZzzzArabZzzz2ArabZzzzArab10ZzzzArab4ZzzzArabZzzzArabZzzz6ArabZzzz4ArabZzzzArabZzzzArabZzzz",
    "Arab3ZzzzArab2ZzzzArabZzzz2ArabZzzzArabZzzzArabZzzzArabZzzzArabZzzzArab2ZzzzArabZzzz2Arab4",
    "ZzzzArab7ZzzzArab4ZzzzArab4ZzzzArabZzzzArab10ZzzzArab17Zzzz5Arab3ZzzzArab5ZzzzArab17Zzzz52",
    "Arab2Zzzz270Zyyy44Zzzz4Zyyy100Zzzz12Zyyy15Zzzz2Zyyy15ZzzzZyyy15ZzzzZyyy37Zzzz10Zyyy174",
    "Zzzz56Zyyy26HiraZyyy2Zzzz13Zyyy44Zzzz4Zyyy9Zzzz7Zyyy2Zzzz14Zyyy6Zzzz154Zyyy984Zzzz4Zyyy17",
    "Zzzz3Zyyy13Zzzz3Zyyy119Zzzz4Zyyy95Zzzz6Zyyy12Zzzz4ZyyyZzzz15Zyyy12Zzzz4Zyyy56Zzzz8Zyyy10",
    "Zzzz6Zyyy40Zzzz8Zyyy30Zzzz2Zyyy12Zzzz4Zyyy2Zzzz62Zyyy340Zzzz12Zyyy14Zzzz2Zyyy13Zzzz3Zyyy10",
    "Zzzz5Zyyy56Zzzz7Zyyy15Zzzz2Zyyy11Zzzz6Zyyy9Zzzz7Zyyy147ZzzzZyyy102Zzzz1030Hani42720Zzzz32",
    "Hani4154Zzzz6Hani222Zzzz2Hani5762Zzzz14Hani7473Zzzz15Hani622Zzzz2466Hani542Zzzz1506Hani4939",
    "Zzzz5Hani4192Zzzz711761ZyyyZzzz30Zyyy96Zzzz128Zinh240Zzzz196112"]).toList

/-- The names of scripts with their codes. -/
def scriptNames : List (String × String × String) := [
    ("Adlm", "Adlam", "Adlm"), ("Aghb", "Caucasian_Albanian", "Aghb"),
    ("Ahom", "Ahom", "Ahom"), ("Arab", "Arabic", "Arab"), ("Armi", "Imperial_Aramaic", "Armi"),
    ("Armn", "Armenian", "Armn"), ("Avst", "Avestan", "Avst"), ("Bali", "Balinese", "Bali"),
    ("Bamu", "Bamum", "Bamu"), ("Bass", "Bassa_Vah", "Bass"), ("Batk", "Batak", "Batk"),
    ("Beng", "Bengali", "Beng"), ("Bhks", "Bhaiksuki", "Bhks"), ("Bopo", "Bopomofo", "Bopo"),
    ("Brah", "Brahmi", "Brah"), ("Brai", "Braille", "Brai"), ("Bugi", "Buginese", "Bugi"),
    ("Buhd", "Buhid", "Buhd"), ("Cakm", "Chakma", "Cakm"),
    ("Cans", "Canadian_Aboriginal", "Cans"), ("Cari", "Carian", "Cari"),
    ("Cham", "Cham", "Cham"), ("Cher", "Cherokee", "Cher"), ("Chrs", "Chorasmian", "Chrs"),
    ("Copt", "Coptic", "Copt"), ("Cpmn", "Cypro_Minoan", "Cpmn"), ("Cprt", "Cypriot", "Cprt"),
    ("Cyrl", "Cyrillic", "Cyrl"), ("Deva", "Devanagari", "Deva"),
    ("Diak", "Dives_Akuru", "Diak"), ("Dogr", "Dogra", "Dogr"), ("Dsrt", "Deseret", "Dsrt"),
    ("Dupl", "Duployan", "Dupl"), ("Egyp", "Egyptian_Hieroglyphs", "Egyp"),
    ("Elba", "Elbasan", "Elba"), ("Elym", "Elymaic", "Elym"), ("Ethi", "Ethiopic", "Ethi"),
    ("Gara", "Garay", "Gara"), ("Geor", "Georgian", "Geor"), ("Glag", "Glagolitic", "Glag"),
    ("Gong", "Gunjala_Gondi", "Gong"), ("Gonm", "Masaram_Gondi", "Gonm"),
    ("Goth", "Gothic", "Goth"), ("Gran", "Grantha", "Gran"), ("Grek", "Greek", "Grek"),
    ("Gujr", "Gujarati", "Gujr"), ("Gukh", "Gurung_Khema", "Gukh"),
    ("Guru", "Gurmukhi", "Guru"), ("Hang", "Hangul", "Hang"), ("Hani", "Han", "Hani"),
    ("Hano", "Hanunoo", "Hano"), ("Hatr", "Hatran", "Hatr"), ("Hebr", "Hebrew", "Hebr"),
    ("Hira", "Hiragana", "Hira"), ("Hluw", "Anatolian_Hieroglyphs", "Hluw"),
    ("Hmng", "Pahawh_Hmong", "Hmng"), ("Hmnp", "Nyiakeng_Puachue_Hmong", "Hmnp"),
    ("Hung", "Old_Hungarian", "Hung"), ("Ital", "Old_Italic", "Ital"),
    ("Java", "Javanese", "Java"), ("Kali", "Kayah_Li", "Kali"), ("Kana", "Katakana", "Kana"),
    ("Kawi", "Kawi", "Kawi"), ("Khar", "Kharoshthi", "Khar"), ("Khmr", "Khmer", "Khmr"),
    ("Khoj", "Khojki", "Khoj"), ("Kits", "Khitan_Small_Script", "Kits"),
    ("Knda", "Kannada", "Knda"), ("Krai", "Kirat_Rai", "Krai"), ("Kthi", "Kaithi", "Kthi"),
    ("Lana", "Tai_Tham", "Lana"), ("Laoo", "Lao", "Laoo"), ("Latn", "Latin", "Latn"),
    ("Lepc", "Lepcha", "Lepc"), ("Limb", "Limbu", "Limb"), ("Lina", "Linear_A", "Lina"),
    ("Linb", "Linear_B", "Linb"), ("Lisu", "Lisu", "Lisu"), ("Lyci", "Lycian", "Lyci"),
    ("Lydi", "Lydian", "Lydi"), ("Mahj", "Mahajani", "Mahj"), ("Maka", "Makasar", "Maka"),
    ("Mand", "Mandaic", "Mand"), ("Mani", "Manichaean", "Mani"), ("Marc", "Marchen", "Marc"),
    ("Medf", "Medefaidrin", "Medf"), ("Mend", "Mende_Kikakui", "Mend"),
    ("Merc", "Meroitic_Cursive", "Merc"), ("Mero", "Meroitic_Hieroglyphs", "Mero"),
    ("Mlym", "Malayalam", "Mlym"), ("Modi", "Modi", "Modi"), ("Mong", "Mongolian", "Mong"),
    ("Mroo", "Mro", "Mroo"), ("Mtei", "Meetei_Mayek", "Mtei"), ("Mult", "Multani", "Mult"),
    ("Mymr", "Myanmar", "Mymr"), ("Nagm", "Nag_Mundari", "Nagm"),
    ("Nand", "Nandinagari", "Nand"), ("Narb", "Old_North_Arabian", "Narb"),
    ("Nbat", "Nabataean", "Nbat"), ("Newa", "Newa", "Newa"), ("Nkoo", "Nko", "Nkoo"),
    ("Nshu", "Nushu", "Nshu"), ("Ogam", "Ogham", "Ogam"), ("Olck", "Ol_Chiki", "Olck"),
    ("Onao", "Ol_Onal", "Onao"), ("Orkh", "Old_Turkic", "Orkh"), ("Orya", "Oriya", "Orya"),
    ("Osge", "Osage", "Osge"), ("Osma", "Osmanya", "Osma"), ("Ougr", "Old_Uyghur", "Ougr"),
    ("Palm", "Palmyrene", "Palm"), ("Pauc", "Pau_Cin_Hau", "Pauc"),
    ("Perm", "Old_Permic", "Perm"), ("Phag", "Phags_Pa", "Phag"),
    ("Phli", "Inscriptional_Pahlavi", "Phli"), ("Phlp", "Psalter_Pahlavi", "Phlp"),
    ("Phnx", "Phoenician", "Phnx"), ("Plrd", "Miao", "Plrd"),
    ("Prti", "Inscriptional_Parthian", "Prti"), ("Rjng", "Rejang", "Rjng"),
    ("Rohg", "Hanifi_Rohingya", "Rohg"), ("Runr", "Runic", "Runr"),
    ("Samr", "Samaritan", "Samr"), ("Sarb", "Old_South_Arabian", "Sarb"),
    ("Saur", "Saurashtra", "Saur"), ("Sgnw", "SignWriting", "Sgnw"),
    ("Shaw", "Shavian", "Shaw"), ("Shrd", "Sharada", "Shrd"), ("Sidd", "Siddham", "Sidd"),
    ("Sind", "Khudawadi", "Sind"), ("Sinh", "Sinhala", "Sinh"), ("Sogd", "Sogdian", "Sogd"),
    ("Sogo", "Old_Sogdian", "Sogo"), ("Sora", "Sora_Sompeng", "Sora"),
    ("Soyo", "Soyombo", "Soyo"), ("Sund", "Sundanese", "Sund"), ("Sunu", "Sunuwar", "Sunu"),
    ("Sylo", "Syloti_Nagri", "Sylo"), ("Syrc", "Syriac", "Syrc"), ("Tagb", "Tagbanwa", "Tagb"),
    ("Takr", "Takri", "Takr"), ("Tale", "Tai_Le", "Tale"), ("Talu", "New_Tai_Lue", "Talu"),
    ("Taml", "Tamil", "Taml"), ("Tang", "Tangut", "Tang"), ("Tavt", "Tai_Viet", "Tavt"),
    ("Telu", "Telugu", "Telu"), ("Tfng", "Tifinagh", "Tfng"), ("Tglg", "Tagalog", "Tglg"),
    ("Thaa", "Thaana", "Thaa"), ("Thai", "Thai", "Thai"), ("Tibt", "Tibetan", "Tibt"),
    ("Tirh", "Tirhuta", "Tirh"), ("Tnsa", "Tangsa", "Tnsa"), ("Todr", "Todhri", "Todr"),
    ("Toto", "Toto", "Toto"), ("Tutg", "Tulu_Tigalari", "Tutg"), ("Ugar", "Ugaritic", "Ugar"),
    ("Vaii", "Vai", "Vaii"), ("Vith", "Vithkuqi", "Vith"), ("Wara", "Warang_Citi", "Wara"),
    ("Wcho", "Wancho", "Wcho"), ("Xpeo", "Old_Persian", "Xpeo"), ("Xsux", "Cuneiform", "Xsux"),
    ("Yezi", "Yezidi", "Yezi"), ("Yiii", "Yi", "Yiii"), ("Zanb", "Zanabazar_Square", "Zanb"),
    ("Zinh", "Inherited", "Zinh"), ("Zyyy", "Common", "Zyyy"), ("Qaac", "Qaac", "Copt"),
    ("Qaai", "Qaai", "Zinh")]

/-- Ranges of characters that are used with other scripts than just their own, with the codes of
all scripts that they are used with. -/
def scriptExtensions : List (Nat × Nat × String) := [
    (0x00B7, 0x00B7, "Avst Cari Copt Dupl Elba Geor Glag Gong Goth Grek Hani Latn Lydi Mahj " ++
      "Perm Shaw"),
    (0x02BC, 0x02BC, "Beng Cyrl Deva Latn Lisu Thai Toto"), (0x02C7, 0x02C7, "Bopo Latn"),
    (0x02C9, 0x02CB, "Bopo Latn"), (0x02CD, 0x02CD, "Latn Lisu"), (0x02D7, 0x02D7, "Latn Thai"),
    (0x02D9, 0x02D9, "Bopo Latn"), (0x0300, 0x0300, "Cher Copt Cyrl Grek Latn Perm Sunu Tale"),
    (0x0301, 0x0301, "Cher Cyrl Grek Latn Osge Sunu Tale Todr"),
    (0x0302, 0x0302, "Cher Cyrl Latn Tfng"), (0x0303, 0x0303, "Glag Latn Sunu Syrc Thai"),
    (0x0304, 0x0304, "Aghb Cher Copt Cyrl Goth Grek Latn Osge Syrc Tfng Todr"),
    (0x0305, 0x0305, "Copt Elba Glag Goth Kana Latn"),
    (0x0306, 0x0306, "Cyrl Grek Latn Perm Tfng"),
    (0x0307, 0x0307, "Copt Dupl Hebr Latn Perm Syrc Tale Tfng Todr"),
    (0x0308, 0x0308, "Armn Cyrl Dupl Goth Grek Hebr Latn Perm Syrc Tale Tfng"),
    (0x0309, 0x0309, "Latn Tfng"), (0x030A, 0x030A, "Dupl Latn Syrc"),
    (0x030B, 0x030B, "Cher Cyrl Latn Osge"), (0x030C, 0x030C, "Cher Latn Tale"),
    (0x030D, 0x030D, "Latn Sunu"), (0x030E, 0x030E, "Ethi Latn"), (0x0310, 0x0310, "Latn Sunu"),
    (0x0311, 0x0311, "Cyrl Latn Todr"), (0x0313, 0x0313, "Grek Latn Perm Todr"),
    (0x0323, 0x0323, "Cher Dupl Kana Latn Syrc Tfng"), (0x0324, 0x0324, "Cher Dupl Latn Syrc"),
    (0x0325, 0x0325, "Latn Syrc"), (0x032D, 0x032D, "Latn Sunu Syrc"),
    (0x032E, 0x032E, "Latn Syrc"), (0x0330, 0x0330, "Cher Latn Syrc"),
    (0x0331, 0x0331, "Aghb Cher Goth Latn Sunu Syrc Thai"), (0x0342, 0x0342, "Grek"),
    (0x0345, 0x0345, "Grek"), (0x0358, 0x0358, "Latn Osge"), (0x035E, 0x035E, "Aghb Latn Todr"),
    (0x0363, 0x036F, "Latn"), (0x0374, 0x0375, "Copt Grek"), (0x0483, 0x0483, "Cyrl Perm"),
    (0x0484, 0x0484, "Cyrl Glag"), (0x0485, 0x0486, "Cyrl Latn"), (0x0487, 0x0487, "Cyrl Glag"),
    (0x0589, 0x0589, "Armn Geor Glag"), (0x060C, 0x060C, "Arab Gara Nkoo Rohg Syrc Thaa Yezi"),
    (0x061B, 0x061B, "Arab Gara Nkoo Rohg Syrc Thaa Yezi"), (0x061C, 0x061C, "Arab Syrc Thaa"),
    (0x061F, 0x061F, "Adlm Arab Gara Nkoo Rohg Syrc Thaa Yezi"),
    (0x0640, 0x0640, "Adlm Arab Mand Mani Ougr Phlp Rohg Sogd Syrc"),
    (0x064B, 0x0655, "Arab Syrc"), (0x0660, 0x0669, "Arab Thaa Yezi"),
    (0x0670, 0x0670, "Arab Syrc"), (0x06D4, 0x06D4, "Arab Rohg"),
    (0x0951, 0x0951, "Beng Deva Gran Gujr Guru Knda Latn Mlym Nand Newa Orya Shrd Taml Telu " ++
      "Tirh"),
    (0x0952, 0x0952, "Beng Deva Gran Gujr Guru Knda Latn Mlym Newa Orya Taml Telu Tirh"),
    (0x0964, 0x0964, "Beng Deva Dogr Gong Gonm Gran Gujr Guru Knda Mahj Mlym Nand Onao Orya " ++
      "Sind Sinh Sylo Takr Taml Telu Tirh"),
    (0x0965, 0x0965, "Beng Deva Dogr Gong Gonm Gran Gujr Gukh Guru Knda Limb Mahj Mlym Nand " ++
      "Onao Orya Sind Sinh Sylo Takr Taml Telu Tirh"),
    (0x0966, 0x096F, "Deva Dogr Kthi Mahj"), (0x09E6, 0x09EF, "Beng Cakm Sylo"),
    (0x0A66, 0x0A6F, "Guru Mult"), (0x0AE6, 0x0AEF, "Gujr Khoj"), (0x0BE6, 0x0BF3, "Gran Taml"),
    (0x0CE6, 0x0CEF, "Knda Nand Tutg"), (0x1040, 0x1049, "Cakm Mymr Tale"),
    (0x10FB, 0x10FB, "Geor Glag Latn"), (0x16EB, 0x16ED, "Runr"),
    (0x1735, 0x1736, "Buhd Hano Tagb Tglg"), (0x1802, 0x1803, "Mong Phag"),
    (0x1805, 0x1805, "Mong Phag"), (0x1CD0, 0x1CD0, "Beng Deva Gran Knda"),
    (0x1CD1, 0x1CD1, "Deva"), (0x1CD2, 0x1CD2, "Beng Deva Gran Knda"),
    (0x1CD3, 0x1CD3, "Deva Gran Knda"), (0x1CD4, 0x1CD4, "Deva"),
    (0x1CD5, 0x1CD5, "Beng Deva Newa Telu Tirh"), (0x1CD6, 0x1CD6, "Beng Deva Telu"),
    (0x1CD7, 0x1CD7, "Deva Newa Shrd"), (0x1CD8, 0x1CD8, "Beng Deva Newa Telu"),
    (0x1CD9, 0x1CD9, "Deva Shrd"), (0x1CDA, 0x1CDA, "Deva Knda Mlym Orya Taml Telu"),
    (0x1CDB, 0x1CDB, "Deva"), (0x1CDC, 0x1CDD, "Deva Shrd"), (0x1CDE, 0x1CDF, "Deva"),
    (0x1CE0, 0x1CE0, "Deva Shrd"), (0x1CE1, 0x1CE1, "Beng Deva"),
    (0x1CE2, 0x1CE2, "Deva Newa Tirh"), (0x1CE3, 0x1CE8, "Deva"),
    (0x1CE9, 0x1CE9, "Deva Nand Newa"), (0x1CEA, 0x1CEA, "Beng Deva Shrd"),
    (0x1CEB, 0x1CEB, "Deva Newa"), (0x1CEC, 0x1CEC, "Deva"),
    (0x1CED, 0x1CED, "Beng Deva Newa Shrd"), (0x1CEE, 0x1CF1, "Deva"),
    (0x1CF2, 0x1CF2, "Beng Deva Gran Knda Mlym Nand Orya Sinh Telu Tirh Tutg"),
    (0x1CF3, 0x1CF3, "Deva Gran"), (0x1CF4, 0x1CF4, "Deva Gran Knda Tutg"),
    (0x1CF5, 0x1CF6, "Beng Deva"), (0x1CF7, 0x1CF7, "Beng"), (0x1CF8, 0x1CF9, "Deva Gran"),
    (0x1CFA, 0x1CFA, "Nand"), (0x1DC0, 0x1DC1, "Grek"), (0x1DF8, 0x1DF8, "Cyrl Latn Syrc"),
    (0x1DFA, 0x1DFA, "Syrc"), (0x202F, 0x202F, "Latn Mong Phag"), (0x204F, 0x204F, "Adlm Arab"),
    (0x205A, 0x205A, "Cari Geor Glag Hung Lyci Orkh"), (0x205D, 0x205D, "Cari Grek Hung Mero"),
    (0x20F0, 0x20F0, "Deva Gran Latn"), (0x2E17, 0x2E17, "Copt Latn"),
    (0x2E30, 0x2E30, "Avst Orkh"), (0x2E31, 0x2E31, "Avst Cari Geor Hung Kthi Lydi Samr"),
    (0x2E3C, 0x2E3C, "Dupl"), (0x2E41, 0x2E41, "Adlm Arab Hung"), (0x2E43, 0x2E43, "Cyrl Glag"),
    (0x2FF0, 0x2FFF, "Hani Tang"), (0x3001, 0x3001, "Bopo Hang Hani Hira Kana Mong Yiii"),
    (0x3002, 0x3002, "Bopo Hang Hani Hira Kana Mong Phag Yiii"),
    (0x3003, 0x3003, "Bopo Hang Hani Hira Kana"), (0x3006, 0x3006, "Hani"),
    (0x3008, 0x3009, "Bopo Hang Hani Hira Kana Mong Tibt Yiii"),
    (0x300A, 0x300B, "Bopo Hang Hani Hira Kana Lisu Mong Tibt Yiii"),
    (0x300C, 0x3011, "Bopo Hang Hani Hira Kana Yiii"),
    (0x3013, 0x3013, "Bopo Hang Hani Hira Kana"),
    (0x3014, 0x301B, "Bopo Hang Hani Hira Kana Yiii"),
    (0x301C, 0x301F, "Bopo Hang Hani Hira Kana"), (0x302A, 0x302D, "Bopo Hani"),
    (0x3030, 0x3030, "Bopo Hang Hani Hira Kana"), (0x3031, 0x3035, "Hira Kana"),
    (0x3037, 0x3037, "Bopo Hang Hani Hira Kana"), (0x303C, 0x303D, "Hani Hira Kana"),
    (0x303E, 0x303F, "Hani"), (0x3099, 0x309C, "Hira Kana"), (0x30A0, 0x30A0, "Hira Kana"),
    (0x30FB, 0x30FB, "Bopo Hang Hani Hira Kana Yiii"), (0x30FC, 0x30FC, "Hira Kana"),
    (0x3190, 0x319F, "Hani"), (0x31C0, 0x31E5, "Hani"), (0x31EF, 0x31EF, "Hani Tang"),
    (0x3220, 0x3247, "Hani"), (0x3280, 0x32B0, "Hani"), (0x32C0, 0x32CB, "Hani"),
    (0x32FF, 0x32FF, "Hani"), (0x3358, 0x3370, "Hani"), (0x337B, 0x337F, "Hani"),
    (0x33E0, 0x33FE, "Hani"), (0xA66F, 0xA66F, "Cyrl Glag"), (0xA700, 0xA707, "Hani Latn"),
    (0xA830, 0xA832, "Deva Dogr Gujr Guru Khoj Knda Kthi Mahj Mlym Modi Nand Shrd Sind Takr " ++
      "Tirh Tutg"),
    (0xA833, 0xA835, "Deva Dogr Gujr Guru Khoj Knda Kthi Mahj Modi Nand Shrd Sind Takr Tirh " ++
      "Tutg"),
    (0xA836, 0xA837, "Deva Dogr Gujr Guru Khoj Kthi Mahj Modi Sind Takr Tirh"),
    (0xA838, 0xA838, "Deva Dogr Gujr Guru Khoj Kthi Mahj Modi Shrd Sind Takr Tirh"),
    (0xA839, 0xA839, "Deva Dogr Gujr Guru Khoj Kthi Mahj Modi Sind Takr Tirh"),
    (0xA8F1, 0xA8F1, "Beng Deva Tutg"), (0xA8F3, 0xA8F3, "Deva Taml"),
    (0xA92E, 0xA92E, "Kali Latn Mymr"), (0xA9CF, 0xA9CF, "Bugi Java"),
    (0xFD3E, 0xFD3F, "Arab Nkoo"), (0xFDF2, 0xFDF2, "Arab Thaa"), (0xFDFD, 0xFDFD, "Arab Thaa"),
    (0xFE45, 0xFE46, "Bopo Hang Hani Hira Kana"),
    (0xFF61, 0xFF65, "Bopo Hang Hani Hira Kana Yiii"), (0xFF70, 0xFF70, "Hira Kana"),
    (0xFF9E, 0xFF9F, "Hira Kana"), (0x10100, 0x10101, "Cpmn Cprt Linb"),
    (0x10102, 0x10102, "Cprt Linb"), (0x10107, 0x10133, "Cprt Lina Linb"),
    (0x10137, 0x1013F, "Cprt Linb"), (0x102E0, 0x102FB, "Arab Copt"),
    (0x10AF2, 0x10AF2, "Mani Ougr"), (0x11301, 0x11301, "Gran Taml"),
    (0x11303, 0x11303, "Gran Taml"), (0x1133B, 0x1133C, "Gran Taml"),
    (0x11FD0, 0x11FD1, "Gran Taml"), (0x11FD3, 0x11FD3, "Gran Taml"), (0x1BCA0, 0x1BCA3, "Dupl"),
    (0x1D360, 0x1D371, "Hani"), (0x1F250, 0x1F251, "Hani")]

/-- The characters that belong to a script, by its code. -/
def script (code : String) : InversionList := Run.points scriptRuns [code]

/-- The characters that are used with a script, by its code. -/
def extendedScript (code : String) : InversionList :=
  let listed := scriptExtensions.map fun (first, last, _) => (first, last)
  let others := scriptExtensions.filterMap fun (first, last, codes) =>
    if (codes.toList.splitOn ' ').contains code.toList then some (first, last) else none
  ((script code).diff (.ofRanges listed)).union (.ofRanges others)

/-- The characters that belong to a script by its loose name. -/
def scriptNamed? (name : Text) : Option InversionList := (named? scriptNames name).map script

/-- The characters that are used with a script by its loose name. -/
def extendedScriptNamed? (name : Text) : Option InversionList :=
  (named? scriptNames name).map extendedScript

end Stencil.Unicode
