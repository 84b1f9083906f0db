import Stencil.Proofs.Literal.Unfinished

/-!
# Broken literals

A reading is broken exactly where an unfinished literal cannot go on.  `read_explained` says what the
fault of a broken reading is: the reason is at the end of an unfinished literal, and the literals
open there follow, from the innermost to the outermost.  Conversely an unfinished text is read as
broken with the literals that are open at its end, so these are determined by the text.
-/

namespace Stencil.Literal

/-! ## Faults of unfinished literals -/

/-- Why an unfinished literal does not go on. -/
inductive Reason where
  /-- An exponent has no digits. -/
  | exponent
  /-- A sequence is neither closed nor goes on. -/
  | unclosed (bracket : Bracket)

/-- The places that state a reason, all of them where the text cannot go on. -/
def Reason.places (rest : Text) : Reason → List Place
  | .exponent => [⟨.missingDigit, rest⟩]
  | .unclosed bracket => [⟨.expected bracket.closer, rest⟩, ⟨bracket.complaint, rest⟩]

/-- The place where an open literal starts. -/
def literalPlace (rest start : Text) : Place := ⟨.literal, start ++ rest⟩

/-- The fault of a text that stops before a rest with the given literals open. -/
def faultOf (reason : Reason) (opens : List Text) (rest : Text) : Fault :=
  ⟨reason.places rest ++ opens.map (literalPlace rest)⟩

theorem within_faultOf (reason : Reason) (opens : List Text) (rest text : Text) :
    (faultOf reason opens rest).within (text ++ rest) = faultOf reason (opens ++ [text]) rest := by
  simp [faultOf, Fault.within, literalPlace]

theorem within_places (reason : Reason) (rest text : Text) :
    (⟨reason.places rest⟩ : Fault).within (text ++ rest) = faultOf reason [text] rest := rfl

/-! ## What a broken reading says -/

section Explanation

variable {item : Text → Reading Literal} {s : Text} {fault : Fault}

/-- The faults of a reader say where and in which literals a text stops. -/
def Explained (item : Text → Reading Literal) : Prop :=
  ∀ s fault, item s = .broken fault → ∃ text rest reason opens, s = text ++ rest ∧
    Unfinished text opens ∧ fault = faultOf reason opens rest

/-- Items with a comma after each are followed by a literal that stops before a rest, and the fault
says so. -/
def Breaks (s : Text) (fault : Fault) : Prop :=
  ∃ (items : List Item) (before : Spaces) (text rest : Text) (reason : Reason) (opens : List Text),
    s = preceding items ++ (before.text ++ (text ++ rest)) ∧
    (∀ item ∈ items, Derives item.text item.value) ∧ Unfinished text opens ∧
    fault = faultOf reason opens rest

theorem Breaks.cons {first : Item} {after : Text} (first_derived : Derives first.text first.value)
    (breaks : Breaks after fault) : Breaks (first.written ++ ',' :: after) fault := by
  obtain ⟨items, before, text, rest, reason, opens, rfl, derived, unfinished, fault_eq⟩ := breaks
  refine ⟨first :: items, before, text, rest, reason, opens, ?_,
    List.forall_mem_cons.mpr ⟨first_derived, derived⟩, unfinished, fault_eq⟩
  rw [preceding_cons, List.append_assoc, List.cons_append]

theorem readSpaced_breaks (explained : Explained item) (broken : readSpaced item s = .broken fault) :
    Breaks s fault := by
  obtain ⟨before, s_eq⟩ := exists_spaces s
  unfold readSpaced at broken
  split at broken
  next => cases broken
  next => cases broken
  next reason found =>
    obtain rfl := Reading.broken.inj broken
    obtain ⟨text, rest, reason, opens, text_eq, unfinished, fault_eq⟩ := explained _ _ found
    refine ⟨[], before, text, rest, reason, opens, ?_, by simp, unfinished, fault_eq⟩
    rw [← text_eq]
    exact s_eq

theorem readMore_breaks (sound : Sound item) (explained : Explained item) {fuel : Nat}
    (failed : readMore item fuel s = .error fault) :
    ∃ after, s = ',' :: after ∧ Breaks after fault := by
  fun_induction readMore item fuel s with
  | case1 => cases failed
  | case2 fuel s value after found reason more ih =>
      obtain rfl := Except.error.inj failed
      obtain ⟨first, rfl, rfl, first_derived⟩ := readSpaced_sound sound found
      obtain ⟨later, rfl, breaks⟩ := ih more
      exact ⟨_, rfl, breaks.cons first_derived⟩
  | case3 => cases failed
  | case4 fuel s reason broken =>
      obtain rfl := Except.error.inj failed
      exact ⟨s, rfl, readSpaced_breaks explained broken⟩
  | case5 => cases failed

theorem readSeparated_breaks (sound : Sound item) (explained : Explained item)
    (failed : readSeparated item s = .error fault) : Breaks s fault := by
  unfold readSeparated at failed
  split at failed
  next value after found =>
    split at failed
    next => cases failed
    next reason more =>
      obtain rfl := Except.error.inj failed
      obtain ⟨first, rfl, rfl, first_derived⟩ := readSpaced_sound sound found
      obtain ⟨later, rfl, breaks⟩ := readMore_breaks sound explained more
      exact breaks.cons first_derived
  next => cases failed
  next reason broken =>
    obtain rfl := Except.error.inj failed
    exact readSpaced_breaks explained broken

theorem readItems_breaks (sound : Sound item) (explained : Explained item)
    (failed : readItems item s = .error fault) : Breaks s fault := by
  unfold readItems at failed
  split at failed
  next => cases failed
  next => cases failed
  next reason separated =>
    obtain rfl := Except.error.inj failed
    exact readSeparated_breaks sound explained separated

/-- The inside of a sequence is refused where one of its items breaks, or after its items where the
closing character is missing. -/
theorem readEnclosed_explained (sound : Sound item) (explained : Explained item)
    (bracket : Bracket)
    (failed : readEnclosed item bracket.closer bracket.complaint s = .error fault) :
    ∃ text rest reason opens, bracket.opener :: s = text ++ rest ∧ Unfinished text opens ∧
      fault.within (bracket.opener :: s) = faultOf reason opens rest := by
  obtain ⟨lead, s_eq⟩ := exists_spaces s
  unfold readEnclosed at failed
  split at failed
  next reason broken =>
    obtain rfl := Except.error.inj failed
    obtain ⟨items, before, text, rest, reason, opens, inner_eq, derived, unfinished, rfl⟩ :=
      readItems_breaks sound explained broken
    have shape : bracket.opener :: s =
        bracket.opener :: ((Opening.mk lead items before).text ++ text) ++ rest := by
      rw [s_eq, inner_eq]
      simp [Opening.text]
    exact ⟨_, rest, reason, _, shape, .inside bracket ⟨lead, items, before⟩ derived unfinished,
      by rw [shape, within_faultOf]⟩
  next inner found =>
    obtain ⟨items, comma, inner_eq, _, derived⟩ := readItems_sound sound found
    obtain ⟨trail, rest_eq⟩ := exists_spaces inner.rest
    have shape : bracket.opener :: s =
        bracket.opener :: (Layout.mk lead items comma trail).text ++ skipSpaces inner.rest := by
      rw [s_eq, inner_eq]
      nth_rewrite 1 [rest_eq]
      simp [Layout.text]
    have stops : fault = ⟨(Reason.unclosed bracket).places (skipSpaces inner.rest)⟩ := by
      dsimp only at failed
      split at failed
      next =>
        split at failed
        next => cases failed
        next => exact (Except.error.inj failed).symm
      next => exact (Except.error.inj failed).symm
    exact ⟨_, _, .unclosed bracket, _, shape, .unclosed bracket ⟨lead, items, comma, trail⟩ derived,
      by rw [stops, shape, within_places]⟩

end Explanation

/-- A number is broken where its exponent has no digits. -/
theorem Numeral.exists_of_read_broken {s : Text} {fault : Fault}
    (broken : Numeral.read s = .broken fault) :
    ∃ (sign : Sign) (mantissa : Mantissa) (letter : Char) (power : Sign) (rest : Text),
      (letter = 'e' ∨ letter = 'E') ∧
      s = sign.text ++ mantissa.text ++ letter :: power.text ++ rest ∧
      fault = ⟨Reason.exponent.places rest⟩ := by
  obtain ⟨sign, s_eq, _⟩ := readSign_sound s
  unfold Numeral.read at broken
  dsimp only at broken
  split at broken
  next => cases broken
  next whole fraction after magnitude =>
    obtain ⟨mantissa, unsigned_eq, _, _⟩ := readMagnitude?_sound magnitude
    split at broken
    next => cases broken
    next => cases broken
    next reason exponent =>
      obtain rfl := Reading.broken.inj broken
      unfold readExponent at exponent
      split at exponent
      next => cases exponent
      next letter tail =>
        obtain ⟨power, tail_eq, _⟩ := readSign_sound tail
        split at exponent
        next letter_eq =>
          dsimp only at exponent
          split at exponent
          next =>
            refine ⟨sign, mantissa, letter, power, (readSign tail).2, letter_eq, ?_,
              (Reading.broken.inj exponent).symm⟩
            rw [s_eq, unsigned_eq]
            nth_rewrite 1 [tail_eq]
            simp
          next => cases exponent
        next => cases exponent

/-- Whatever the fuel, a literal that is read as broken is unfinished. -/
theorem read_explained (depth : Nat) : Explained (read depth) := by
  induction depth with
  | zero =>
      intro s fault broken
      cases broken
  | succ depth ih =>
      intro s fault broken
      unfold read at broken
      split at broken
      next => cases broken
      next reason number =>
        obtain rfl := Reading.broken.inj broken
        obtain ⟨sign, mantissa, letter, power, rest, letter_eq, rfl, rfl⟩ :=
          Numeral.exists_of_read_broken number
        exact ⟨_, rest, .exponent, _, rfl, .exponent sign mantissa letter letter_eq power,
          within_places _ _ _⟩
      next =>
        split at broken
        next inside =>
          split at broken
          next => cases broken
          next reason failed =>
            obtain rfl := Reading.broken.inj broken
            exact readEnclosed_explained (read_sound depth) ih .square failed
        next inside =>
          split at broken
          next => cases broken
          next reason failed =>
            obtain rfl := Reading.broken.inj broken
            exact readEnclosed_explained (read_sound depth) ih .round failed
        next =>
          split at broken
          next =>
            split at broken
            next => cases broken
            next => cases broken
          next => cases broken
        next => cases broken

/-! ## Reading an unfinished text -/

theorem Numeral.read_missingDigits (sign : Sign) (mantissa : Mantissa) {letter : Char}
    (letter_eq : letter = 'e' ∨ letter = 'E') (power : Sign) :
    Numeral.read (sign.text ++ mantissa.text ++ letter :: power.text) =
      .broken ⟨Reason.exponent.places []⟩ := by
  have signed := readSign_append sign (mantissa.unsigned (letter :: power.text))
  have magnitude := readMagnitude?_append mantissa (letter_ends letter_eq power.text)
  have power_signed := readSign_append power (s := []) (by simp)
  rw [List.append_nil] at power_signed
  have exponent : readExponent (letter :: power.text) = .broken ⟨Reason.exponent.places []⟩ := by
    rw [readExponent, if_pos letter_eq, power_signed]
    rfl
  rw [List.append_assoc, Numeral.read, signed]
  dsimp only
  rw [magnitude]
  dsimp only
  rw [exponent]

section Stopping

variable {item : Text → Reading Literal} {s : Text} {fault : Fault}

theorem comma_preceding (items : List Item) (s : Text) :
    ',' :: (preceding items ++ s) = following items ++ ',' :: s := by
  induction items with
  | nil => rfl
  | cons item items ih =>
      rw [preceding_cons, List.append_assoc, List.cons_append, ih]
      simp [following]

theorem delimits_following (items : List Item) (s : Text) :
    Delimits (following items ++ ',' :: s) := by
  rw [← comma_preceding]
  simp [Delimits]

theorem readMore_stops (items : List Item) (reads : ∀ found ∈ items, Reads item found)
    (broken : readSpaced item s = .broken fault) {fuel : Nat} (enough : items.length < fuel) :
    readMore item fuel (following items ++ ',' :: s) = .error fault := by
  induction items generalizing fuel with
  | nil =>
      obtain ⟨fuel, rfl⟩ := Nat.exists_eq_succ_of_ne_zero (Nat.ne_of_gt enough)
      rw [following, List.flatMap_nil, List.nil_append, readMore, broken]
  | cons first items ih =>
      obtain ⟨first_reads, items_read⟩ := List.forall_mem_cons.mp reads
      obtain ⟨fuel, rfl⟩ := Nat.exists_eq_succ_of_ne_zero (Nat.ne_of_gt (Nat.zero_lt_of_lt enough))
      have delimits := delimits_following items s
      have found := readSpaced_append first_reads delimits.stops
      have shape : following (first :: items) ++ ',' :: s =
          ',' :: (first.written ++ (following items ++ ',' :: s)) := by
        simp [following]
      rw [delimits.skipSpaces_eq] at found
      rw [shape, readMore, found]
      dsimp only
      rw [ih items_read (Nat.lt_of_succ_lt_succ enough)]

theorem readItems_stops (items : List Item) (reads : ∀ found ∈ items, Reads item found)
    (broken : readSpaced item s = .broken fault) :
    readItems item (skipSpaces (preceding items ++ s)) = .error fault := by
  have separated : readSeparated item (skipSpaces (preceding items ++ s)) = .error fault := by
    rw [readSeparated, readSpaced_skipSpaces]
    cases items with
    | nil =>
        rw [preceding, List.flatMap_nil, List.nil_append, broken]
    | cons first items =>
        obtain ⟨first_reads, items_read⟩ := List.forall_mem_cons.mp reads
        have delimits := delimits_following items s
        have found := readSpaced_append first_reads delimits.stops
        have enough : items.length < (following items ++ ',' :: s).length := by
          have counted := length_le_following items
          simp only [List.length_append, List.length_cons]
          omega
        rw [preceding_cons, List.append_assoc, List.cons_append, comma_preceding, found,
          delimits.skipSpaces_eq]
        dsimp only
        rw [readMore_stops items items_read broken enough]
  rw [readItems, separated]

/-- The items of a sequence are broken where one of them is. -/
theorem readItems_opening (opening : Opening) (reads : ∀ found ∈ opening.items, Reads item found)
    (no_space : ∀ c ∈ s.head?, isSpace c = false) (broken : item s = .broken fault) :
    readItems item (skipSpaces (opening.text ++ s)) = .error fault := by
  have spaced : readSpaced item (opening.before.text ++ s) = .broken fault := by
    rw [readSpaced, skipSpaces_append, skipSpaces_of_head no_space, broken]
  rw [Opening.text, List.append_assoc, List.append_assoc, skipSpaces_append,
    readItems_stops opening.items reads spaced]

theorem readEnclosed_unclosed (misses : Misses item) (bracket : Bracket) (layout : Layout)
    (reads : ∀ found ∈ layout.items, Reads item found) :
    readEnclosed item bracket.closer bracket.complaint layout.text =
      .error ⟨(Reason.unclosed bracket).places []⟩ := by
  have ended : Closes [] := by simp [Closes]
  have read := readItems_append misses layout.items reads layout.comma layout.trail ended
  rw [List.append_nil] at read
  have place := skipSpaces_layout layout []
  rw [List.append_nil, List.append_nil] at place
  rw [readEnclosed, place, read]
  rfl

end Stopping

theorem read_of_readEnclosed_error (bracket : Bracket) {depth : Nat} {s : Text} {fault : Fault}
    (failed : readEnclosed (read depth) bracket.closer bracket.complaint s = .error fault) :
    read (depth + 1) (bracket.opener :: s) = .broken (fault.within (bracket.opener :: s)) := by
  cases bracket with
  | square =>
      have failed : readEnclosed (read depth) ']' .closingBracket s = .error fault := failed
      unfold read
      rw [Bracket.opener, Numeral.read_eq_miss s (by decide) (by decide) (by decide)]
      simp [failed]
  | round =>
      have failed : readEnclosed (read depth) ')' .closingParenthesis s = .error fault := failed
      unfold read
      rw [Bracket.opener, Numeral.read_eq_miss s (by decide) (by decide) (by decide)]
      simp [failed]

theorem length_text_le_preceding {item : Item} {items : List Item} (member : item ∈ items) :
    item.text.length ≤ (preceding items).length := by
  obtain ⟨front, back, rfl⟩ := List.append_of_mem member
  simp only [preceding, List.flatMap_append, List.flatMap_cons, Item.written, List.length_append]
  omega

/-- No literal starts with a space, nor does the beginning of one. -/
theorem Unfinished.no_space {text : Text} {opens : List Text} (unfinished : Unfinished text opens) :
    ∀ c ∈ text.head?, isSpace c = false := by
  cases unfinished with
  | exponent sign mantissa letter _ power =>
      rw [List.append_assoc]
      exact number_no_space sign mantissa _
  | unclosed bracket layout _ => cases bracket <;> simp [Bracket.opener, isSpace]
  | inside bracket opening _ _ => cases bracket <;> simp [Bracket.opener, isSpace]

/-- An unfinished literal is read as broken, with the literals that are open at its end. -/
theorem Unfinished.read_eq {text : Text} {opens : List Text} (unfinished : Unfinished text opens)
    {depth : Nat} (enough : text.length ≤ depth) :
    ∃ reason, read (depth + 1) text = .broken (faultOf reason opens []) := by
  induction unfinished generalizing depth with
  | exponent sign mantissa letter letter_eq power =>
      refine ⟨.exponent, ?_⟩
      unfold read
      rw [Numeral.read_missingDigits sign mantissa letter_eq power]
      simp [faultOf, Fault.within, literalPlace]
  | unclosed bracket layout items =>
      rw [List.length_cons] at enough
      have reads := reads_layout items enough
      refine ⟨.unclosed bracket, ?_⟩
      rw [read_of_readEnclosed_error bracket
        (readEnclosed_unclosed (misses_read depth) bracket layout reads)]
      simp [faultOf, Fault.within, literalPlace]
  | @inside bracket opening items text opens inner ih =>
      have lengths : (preceding opening.items).length + text.length < depth := by
        simp only [Opening.text, List.length_cons, List.length_append] at enough
        omega
      obtain ⟨depth, rfl⟩ := Nat.exists_eq_succ_of_ne_zero (Nat.ne_of_gt (Nat.zero_lt_of_lt lengths))
      have inner_enough : text.length ≤ depth := by omega
      obtain ⟨reason, broken⟩ := ih inner_enough
      have reads : ∀ found ∈ opening.items, Reads (read (depth + 1)) found := by
        intro found member
        have shorter := length_text_le_preceding member
        exact (items found member).reads (by omega)
      have refused : readEnclosed (read (depth + 1)) bracket.closer bracket.complaint
          (opening.text ++ text) = .error (faultOf reason opens []) := by
        rw [readEnclosed, readItems_opening opening reads inner.no_space broken]
      refine ⟨reason, ?_⟩
      rw [read_of_readEnclosed_error bracket refused]
      simp [faultOf, Fault.within, literalPlace]

/-- A list that stops inside a literal is refused at its end, with the literals open there. -/
theorem UnfinishedList.readList_eq {text : Text} {opens : List Text}
    (unfinished : UnfinishedList text opens) :
    ∃ reason, readList text = .error (faultOf reason opens []) := by
  obtain ⟨opening, inner, rfl, items, inner_unfinished⟩ := unfinished
  have lengths : (preceding opening.items).length + inner.length ≤
      (opening.text ++ inner).length := by
    simp only [Opening.text, List.length_append]
    omega
  have inner_enough : inner.length ≤ (opening.text ++ inner).length := by omega
  obtain ⟨reason, broken⟩ := inner_unfinished.read_eq inner_enough
  have reads : ∀ found ∈ opening.items,
      Reads (read ((opening.text ++ inner).length + 1)) found := by
    intro found member
    have shorter := length_text_le_preceding member
    exact (items found member).reads (by omega)
  refine ⟨reason, ?_⟩
  rw [readList, readItems_opening opening reads inner_unfinished.no_space broken]

/-! ## The literals of a fault -/

/-- The places of a fault that are starts of literals. -/
def Fault.literals (fault : Fault) : List Place :=
  fault.places.filter fun place => place.complaint = .literal

theorem literals_faultOf (reason : Reason) (opens : List Text) (rest : Text) :
    (faultOf reason opens rest).literals = opens.map (literalPlace rest) := by
  have reason_free : (reason.places rest).filter (fun place => place.complaint = .literal) = [] := by
    rcases reason with _ | bracket
    · rfl
    · cases bracket <;> rfl
  have all_literals : (opens.map (literalPlace rest)).filter
      (fun place => place.complaint = .literal) = opens.map (literalPlace rest) := by
    rw [List.filter_eq_self]
    intro place member
    obtain ⟨start, _, rfl⟩ := List.mem_map.mp member
    rfl
  rw [Fault.literals, faultOf, List.filter_append, reason_free, all_literals, List.nil_append]

/-- The literals that are open at the end of a text are determined by the text. -/
theorem UnfinishedList.unique {text : Text} {opens others : List Text}
    (unfinished : UnfinishedList text opens) (other : UnfinishedList text others) :
    opens = others := by
  obtain ⟨reason, read⟩ := unfinished.readList_eq
  obtain ⟨other_reason, other_read⟩ := other.readList_eq
  have same := Except.error.inj (read.symm.trans other_read)
  have places_eq : opens.map (literalPlace []) = others.map (literalPlace []) := by
    rw [← literals_faultOf reason, same, literals_faultOf]
  refine (List.map_inj_right fun left right starts_eq => ?_).mp places_eq
  simpa [literalPlace] using starts_eq

end Stencil.Literal
