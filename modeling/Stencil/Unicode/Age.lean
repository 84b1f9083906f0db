import Stencil.Unicode.Run

/-!
# Ages

The age of a code point is the version of the standard that assigned it.
-/

namespace Stencil.Unicode

/-- The runs of code points of one age. -/
def ageRuns : List Run := Run.ofText (String.join [
    "A502D4A30D8FGD18G3H11I14A89D5G2A47DA10D5G17A70D9FG8H5G3A2DF13J4A2J2Na2AI3APNa4A7NaANaA20Na",
    "A44JA7DF2ADADADADA18E2FG5H4DA12DA66DA12DA41JD2F2D4A53F2A2F2A2F2IA28D2A8H2A2I6F16I4J16K2L2P8",
    "NaA38Na2A7TA39TADNa2P2MNaB17HB13A10IA9BH3Na8A27Na4TA5Na11G4MPJ5HAG9J5AOXHALA26J5A19D3G3H6L",
    "A14F2A72D2A5DA15DA30G2A10D5GD14NaD30G3D27Na2G3H30J18D49FNa14I59Na2T3K46Na2K15NaL28Na2LNaS11",
    "Na5X31NaX2Na5AaX8MPM11P6Q2XR8W10X11TR15QM27PKA3GA53L2A18KLA5KL2A25J2L5PK2I2HI2PA3NaA8Na2A2",
    "Na2A22NaA7NaANa3A4Na2AGA7Na2A2Na2A3HNa8ANa4A2NaA5Na2A21KS2TNa2GAGNaA6Na4A2Na2A22NaA7NaA2Na",
    "A2NaA2Na2ANaA5Na4A2Na2A3Na3JNa7A4NaANa7A15JTNa10A3NaA7GANaA3NaA22NaA7NaA2NaA5Na2A10NaA3NaA3",
    "Na2ANa15AG3Na2A10MGNa7QS6NaA3NaA8Na2A2Na2A22NaA7NaA2NaGA4Na2A8JNa2A2Na2A3Na7WA2Na4A2NaA3J2",
    "Na2A11GL6Na10A2NaA6Na3A3NaA4Na3A2NaANaA2Na3A2Na3A3Na3A8HA3Na4A5Na3A3NaA4Na2JNa6ANa14HA12G8",
    "Na5PA3TA8NaA3NaA23NaA10PA5Na2XJA7NaA3NaA4Na7A2NaJ2QNa2XNa2A2J2Na2A10Na7UJ8RPA2TA8NaA3NaA23",
    "NaA10NaA5Na2G2A7NaA3NaA4Na7A2Na6XANaA2I2Na2A10NaI2YNa12SPA2WA8NaA3NaA23LA16LS2JA6JNaA3NaA4L",
    "RNa4R3AR7QA2J2Na2A10J6R3J7NaWD2NaD18Na3D24NaD9NaDNa2D7Na3DNa4D6NaDNaD8Na6P10Na2D3Na12A58Na4",
    "A29Na37A2NaANaUA2UANaUAU6A4UA7UA3NaANaAU2A2UA13UA3Na2A5NaANaA6YNaA10Na2A2M2Na32B72NaB33DJ2",
    "Na4B27L4B6DBNaB21D3B7DBD3NaD15NaJDH2J3K4L2Na37D34JD5JD2JD7J3D4J6D26J64K4J2A38NaMNa5MNa2A39",
    "F2H2AHM3A90K5A68K5A82K6D7HD63HDNaD4Na2D7NaDNaD4Na2D39HDNaD4Na2D31HDNaD4Na2D7NaDNaD4Na2D7HD7",
    "NaD23HD31HDNaD4Na2D7HD39HD19Na2L2H2D28Na3H26Na6D85QNa2Q6Na2KD630K9D29Na3D81P8Na7F13XF7XNa9X",
    "F23Na9F20Na12F13NaF3NaF2Na12D93GNa2D10Na6G10Na6D15XD10Na6D88TNa7D42JNa5K70Na10G29P2NaG12Na4",
    "G12Na4GNa3G42Na2G5Na11H42K2Na4H26Na6H10KNa3H2G32H28Na2H2K63NaK29Na2K11Na6K10Na6K14Na2P15W2",
    "X14Na49I76XNaAa2I45X2AaJ43M3J12M6L52Na8L4J56Na3J15Na3J51R9Aa2Na5T43Na2T3M8Na8K35M4SP2UNa5",
    "G108H88I7J28P15S4XRLKI2A155BJ4A90J6A22Na2A6Na2A38Na2A6Na2A8NaANaANaANaA31Na2A53NaA15NaA14",
    "Na2A6NaA19Na2A3NaA9NaA47DA23FD6F5G2H2FH7F5JNaO4A7FNa2A27NaH5L8Na3A11BCD3F2H4K3LNP3QSXNa15",
    "A18D2F7HI4JNa15A57D2GHF15HI2JK3A48DIJ4KQ2Na4A91D9F12A242F14ADA121DFD30F52G2H11I12KL11P7R4S",
    "A37D2Aa3Na22A11Na21A139F20GA150F10A80D8F8A20G2F2HDA86D2F12H2F10G8H11JK2G2H16IJ10K3J4K10LK19",
    "LKL4K24PA4LA4L2A28LA35LALA4L3AKA7L2A7F14A31L3A24LA14LH7I4MJML2F28J4F16D256F512G14H6I7J5I4",
    "J41P3J5K5P26Na2P32NaWP34T3P12UP8ST25Q4T15UH47XH47XI13J3KJ3I4J6K2H107K7M2Na5H45NaMNa5MNa2H54",
    "M2Na7HLNa14LH23Na9H7NaH7NaH7NaH7NaH7NaH7NaH7NaH7NaJ32H24J4H2J19KM10P7R2S5T5UW3X11Na34D26Na",
    "D89Na12D214Na26D12Z4A56D3F3DANaA84F2Na2A6F2A94FNa5A40JSTNaA94NaA16D24L3W5H16J20Aa2Na9ZF16",
    "A29G2NaA36K12GF15A28G2HA50F15A12G4A47VA119G4A99G2A31GD6582W10G64A20902H22J8K8MQ9S21T5W13X3",
    "D1165Na3D18F2D16FD12FD3FDNa9K48J300Na20J32L2J18M8J28P6QMK88Na8H23I4J5I2J107L2QL2M2P12L10MP3",
    "RTP2Q6T2U6X2U5W4Aa3Na2X2NaXNaX5Aa3Na21X3W2PM2LJ5H44WNa3K10Na6I56Na8J69RNa8J12Na6K28Q2T2J84",
    "Na11JK29Na3K78NaK11Na4K2P31NaJ55Na9J14Na2J10Na2J4K28P4K67Na24K5M23Na10L6Na2L6Na2L6Na9L7NaL7",
    "NaP48Q4P2U2W4Na4Q80K46Na2K10Na6B11172Na12K23Na4K49Na4B2048A6702M2F59K3Na2H106Na38A7Na12A5",
    "Na5DA25NaA5NaANaA2NaA2NaA108L16XNa16A365X16A64Na2A54Na7XE32A12FGX2F16H10Na6A4J3P7Q2A21F2G2",
    "A10NaA19NaA4Na4A3FANaA135Na2ANaA94F2A94Na3A6Na2A6Na2A6Na2A3Na3A7NaA7Na10D3CA3G12NaG26NaG19",
    "NaG2NaG15Na2G14Na34G123Na5G3Na4G45Na3G9H75P2R2NaJ12WNa3PNa47J46Na130J29Na3J49Na15P28Na4E31P",
    "E4Na9S3E27Na5P43Na5G30NaGH36Na4H14Na42E38G2E38G80Na2G10Na6R36Na4R36Na4P40Na8P52Na11PX11Na",
    "X15NaX7NaX2NaX11NaX15NaX7NaX2Na3Aa52Na12P311Na9P22Na10P8Na24X6NaX42NaX9Na69G6Na2GNaG44NaG2",
    "Na3GNa2GK22NaK9P63Na8P9Na48Q19NaQ2Na5Q5I26K2Na3IJ26Na5JNa64M56Na4Q2M2Q16Na2Q46H4NaH2Na5H8Na",
    "H3NaH27T2Na2H3Na4H9TNa7H9Na7K32P32Na32P39Na4P12Na9K54Na3K29Na2K27Na5K8P18Na7P4Na12P7Na80K73",
    "Na55Q51Na13Q51Na7Q6T40Na8T10Na6Aa38Na3Aa29Na8Aa2Na208K31NaW42NaW3Na2W2Na16Aa3Na55AaY3T40Na8",
    "T42Na22X26Na38W28Na20U23Na9L78Na4L30X6Na9PK66XNa10TNa2M25Na7M10Na6M53NaM14T3WNa8P39Na9M73Q4",
    "PW2M10PQ5NaP20Na11P18NaP43RY3Na62Q7NaQNaQ4NaQ15NaQ11Na6P59Na5P10Na6QP3NaP8Na2P2Na2P22NaP7Na",
    "P2NaP5NaTP9Na2P2Na2P3Na2QNa6PNa5P7Na2P7Na3P5Na11Aa10NaAaNa2AaNaAa38NaAa10NaAaNa2AaNaAa4Na",
    "Aa10NaAa2Na8Aa2Na29R90WRNaRTUW2Na30P72Na8P10Na166P54Na2P18Q20Na34P69Na11P10Na6R13Na19M56UX",
    "Na6M10Na6Aa20Na28Q26TNa2Q15Na4Q16X7Na185T60Na100P83Na12PW7Na2WNa2W8NaW2NaW30NaW2Na2W12Na9",
    "W10Na70U8Na2U46Na2U11Na27S72Na8S52U2S23TS5Na13X16P57Na7Y10Na182Aa34Na14Aa10Na6R9NaR45NaR14",
    "Na10R29Na3R32Na2R22NaR14Na73S7NaS2NaS44Na3SNaS2NaS9Na8S10Na6T6NaT2NaT37NaT2NaT6Na7T10Na310",
    "T25Na7Y17NaY41Na3Y28AaNa85WNa15U50Na13UI879P42QNa102I99P12NaI4PNa11Q196Na2636X99Na13K1071Y",
    "U9Y29Na10Aa3995Na5Q583Na6841Aa58Na1734L569Na7P31NaP10Na4P2X79NaX10Na6P30Na2P6Na10P70Na10P10",
    "NaP7NaP21Na5P19Na432Aa58Na198T91Na101M69U6Na4UM47U9Na7M17Na64RSU2WNa11W2Na14R6125T5U6Na8",
    "R755W483Na41AaW9Na8935X4NaX7NaX2NaL2S285X4Na15YNa29U3Na2YNa14U4Na8S396Na2308P107Na5P13Na3P9",
    "Na7P10Na2P8Na3932Aa250Na6Aa436Na76X46Na2X23Na9X116Na60E246Na10E39Na2JE180Q11X2Na21H70Na122",
    "Y20Na12T20Na12G87Na9I18T7Na135E85NaE71NaE2Na2ENa2E2Na2E4NaE12NaENaE4GE2NaE65NaE4Na2E8NaE7Na",
    "E28NaE4NaE5NaENa3E7NaE338H2Na2E290I2Na2E50Q652Na15Q5NaQ15Na1104X31Na6Y6Na213R7NaR17Na2R7Na",
    "R2NaR5Na5Y62Na33YNa112U45Na3U14Na2U10Na4U2Na320X31Na17U58Na5UNa464Y42Na214Aa43Na4AaNa480X7",
    "NaX4NaX2NaX15NaP197Na2P16Na41R75UNa4R10Na4R2Na785T68Na76U61Na194M4NaM27NaM2NaMNa2MNaM10NaM4",
    "NaMNaMNa6MNa4MNaMNaMNaM3NaM2NaMNa2MNaMNaMNaMNaMNaM2NaMNa2M4NaM7NaM4NaM4NaMNaM10NaM17Na5M3Na",
    "M5NaM17Na52M2Na270J44Na4J100Na12L15Na2L14PNaL15NaL15P22Na10K11P2W3K31TLKL11KLKL2KL3KL3K5L8K",
    "L7KL10M2UW3L9KLK2L2KL10K4L2KL10R18WNa56L26KL2Na13K34L9RNa4K9Na7L2Na14S6Na154L33P12Q3L6PL70P",
    "Q2L20P12L37PL5P4Q5P12L17P7Q8L63PLPL182PL4P2QL62P2M4P7Q5L24P18RP41RP86L5ML16ML3MLMLMLML3ML6",
    "M2L4MLM2L4ML12P2Q2L11P48L70P10QR2S2UW2Na4YX3P13Na3P4R3S2TUW2Na3L116Y3Na4Y5P85T4YNa6U12Na4X",
    "Na15P12Na4P56Na8P10Na6P40Na8P30Na2W2Aa10Na4Aa2Na62S12WU3Q9R6SR8S8RS2R12UR12ST3R15S13T5UWT4",
    "W2XTUT4Q5R13S6T11W2U6W3U2T10U6QT2U8WXU3S23T25U84Na12T14Na2U4WY3U3X2Na3U3W4Y2AaNa5AaU6W19X4",
    "Y3W7X4Y3AaYW3X3AaNa7Y2W7X3Y2AaNa2AaX8YAaNa6X7Y2Na7W147NaW55Aa37W10Na1028B2E42711W7X2Na32",
    "K4149X4YNa6L222Na2Q5762Na14S7473Na15Z622Na2466E542Na1504B2W4939Na5Y4192Na56398B2Na65534B2",
    "Na65534B2Na65534B2Na65534B2Na65534B2Na65534B2Na65534B2Na65534B2Na65534B2Na65534B2NaENa30E96",
    "Na128G240Na65038B131074"]).toList

/-- The versions of the standard in order, each with the label of its age. -/
def versions : List (String × String × String) := [
    ("1.1", "V1_1", "A"), ("2.0", "V2_0", "B"), ("2.1", "V2_1", "C"), ("3.0", "V3_0", "D"),
    ("3.1", "V3_1", "E"), ("3.2", "V3_2", "F"), ("4.0", "V4_0", "G"), ("4.1", "V4_1", "H"),
    ("5.0", "V5_0", "I"), ("5.1", "V5_1", "J"), ("5.2", "V5_2", "K"), ("6.0", "V6_0", "L"),
    ("6.1", "V6_1", "M"), ("6.2", "V6_2", "N"), ("6.3", "V6_3", "O"), ("7.0", "V7_0", "P"),
    ("8.0", "V8_0", "Q"), ("9.0", "V9_0", "R"), ("10.0", "V10_0", "S"), ("11.0", "V11_0", "T"),
    ("12.0", "V12_0", "U"), ("12.1", "V12_1", "V"), ("13.0", "V13_0", "W"),
    ("14.0", "V14_0", "X"), ("15.0", "V15_0", "Y"), ("15.1", "V15_1", "Z"),
    ("16.0", "V16_0", "Aa")]

/-- The characters that a version had, by its loose name. -/
def ageNamed? (name : Text) : Option InversionList := do
  let label ← named? versions name
  let earlier := (versions.map fun (_, _, other) => other).takeWhile (· != label)
  some (Run.points ageRuns (label :: earlier))

end Stencil.Unicode
