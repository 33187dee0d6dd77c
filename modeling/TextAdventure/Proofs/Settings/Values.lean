import TextAdventure.Proofs.Settings.Spelling
import TextAdventure.Settings.Skip
import TextAdventure.Text.Ranges

/-!
# Values of any kind

The value of a field that the settings do not have is passed over without being kept. Here are the
texts of such values: truth values, whole numbers, strings, and lists and tuples of values, nested
to a depth (`ValueText`). A list may hold the very characters that part fields from each other, so
each kind of value has a lemma that says that exactly its text is gone past, and nested values are
gone past by induction on their depth: every level takes two levels of the depth that is left
(`skips_skipValue`).
-/

namespace TextAdventure.Settings.Source

/-! ## Names -/

/-- The texts of a name: the name as it stands, or behind `r#`, where it may hold more. -/
inductive NameText (name : String) : List Char → Prop
  | plain : isPlainName name.toList = true → NameText name name.toList
  | raw : name.toList ≠ [] → (∀ c ∈ name.toList, isRawNameChar c = true) →
      NameText name ('r' :: '#' :: name.toList)

theorem NameText.reads {name : String} {text rest : List Char} (h : NameText name text)
    (hrest : Parted rest) : Reads readName text rest name := by
  intro p
  cases h with
  | plain hname => rw [reads_readName hname hrest p, String.ofList_toList]
  | raw hne hraw =>
      have htake : (name.toList ++ rest).takeWhile isRawNameChar = name.toList :=
        takeWhile_append hraw fun c hc => (endsToken_spec (hrest.endsToken hc)).1
      have hhead : (name.toList ++ rest).head?.any isRawNameChar = true := by
        obtain ⟨c, tail, hlist⟩ := List.exists_cons_of_ne_nil hne
        simp [hlist, hraw c (by simp [hlist])]
      have hdrop := drop_append ('r' :: '#' :: name.toList) rest p
      simp only [List.length_cons, List.cons_append] at hdrop
      simp only [readName, List.cons_append, hhead, if_true, htake, String.ofList_toList, hdrop]

/-- What does not start a name is not read as one. -/
theorem readName_of_not_start {c : Char} (hc : isNameStart c = false) (text : List Char)
    (p : Position) : ∃ failure, readName ⟨c :: text, p⟩ = .error failure := by
  have hr : c ≠ 'r' := by
    rintro rfl
    cases hc
  unfold readName
  split
  · exact ⟨_, rfl⟩
  · rename_i heq
    exact absurd (List.cons.inj heq).1 hr
  · rename_i heq
    exact absurd (List.cons.inj heq).1 hr
  · rename_i heq
    exact absurd (List.cons.inj heq).1 hr
  · rename_i heq
    obtain ⟨rfl, -⟩ := List.cons.inj heq
    rw [if_neg (by simp [hc])]
    split <;> exact ⟨_, rfl⟩

/-! ## Whole numbers -/

/-- The signs of whole numbers, and what they multiply with. -/
def signs : List (List Char × Int) := [([], 1), (['+'], 1), (['-'], -1)]

/-- The marks of the bases. -/
def bases : List (List Char × Nat) := [([], 10), (['0', 'x'], 16), (['0', 'b'], 2), (['0', 'o'], 8)]

/-- Whether a character is a digit in a base. -/
def isDigitOf (base : Nat) (c : Char) : Bool :=
  (hexDigit? c).any (· < base)

/-- The value of digits in a base. Underscores among them do not count. -/
def numeral (base : Nat) (digits : List Char) : Nat :=
  (digits.filter (· ≠ '_')).foldl (fun n c => base * n + digitValue c) 0

/-- The texts of a whole number, in any base. The first character behind the sign and the mark is
a digit. -/
inductive IntegerText : Int → List Char → Prop
  | intro {sign mark digits : List Char} {unit : Int} {base : Nat} {first : Char} :
      (sign, unit) ∈ signs → (mark, base) ∈ bases → isDigitOf base first = true →
      (∀ c ∈ digits, c = '_' ∨ isDigitOf base c = true) →
      IntegerText (unit * numeral base (first :: digits)) (sign ++ (mark ++ first :: digits))

theorem isDigitOf_spec {base : Nat} {c : Char} (h : isDigitOf base c = true) :
    isIntegerChar c = true ∧ c ≠ '_' ∧ digitValue c < base := by
  simp only [isDigitOf, hexDigit?] at h
  split at h
  · rename_i hhex
    refine ⟨by simp only [isIntegerChar, hhex, Bool.true_or], ?_, by simpa using h⟩
    rintro rfl
    revert hhex
    decide
  · cases h

theorem isDigitOf_ten {c : Char} (h : isDigitOf 10 c = true) : c.isDigit = true := by
  simp only [isDigitOf, hexDigit?] at h
  split at h
  · simp only [Option.any_some, decide_eq_true_eq, digitValue] at h
    split at h
    · assumption
    · split at h <;> omega
  · cases h

/-- A sign is gone past, and what may follow it is all that 64 bits hold. -/
theorem skipSign_append {sign : List Char} {unit : Int} (hsign : (sign, unit) ∈ signs) {c : Char}
    (hc : c.isDigit = true) (text : List Char) (p : Position) :
    ∃ limit, skipSign ⟨sign ++ c :: text, p⟩ = (limit, ⟨c :: text, p.past sign⟩) ∧
      ∀ n : Nat, -0x8000000000000000 ≤ unit * n → unit * n ≤ 0x7fffffffffffffff → n ≤ limit := by
  simp only [signs, List.mem_cons, Prod.mk.injEq, List.not_mem_nil, or_false] at hsign
  rcases hsign with ⟨rfl, rfl⟩ | ⟨rfl, rfl⟩ | ⟨rfl, rfl⟩
  · refine ⟨0xffffffffffffffff, ?_, fun n _ hn => by omega⟩
    rw [List.nil_append, skipSign]
    split
    · rename_i heq
      rw [(List.cons.inj heq).1] at hc
      cases hc
    · rename_i heq
      rw [(List.cons.inj heq).1] at hc
      cases hc
    · rfl
  · exact ⟨0x7fffffffffffffff, rfl, fun n _ hn => by omega⟩
  · exact ⟨0x8000000000000000, rfl, fun n hn _ => by omega⟩

/-- A sign does not matter for whether a number has a point or an exponent. -/
theorem looksLikeFloat_append {sign : List Char} {unit : Int} (hsign : (sign, unit) ∈ signs)
    {c : Char} (hc : c.isDigit = true) (text : List Char) (p : Position) :
    looksLikeFloat ⟨sign ++ c :: text, p⟩
      = decide (((c :: text).takeWhile isIntegerChar).length
          < ((c :: text).takeWhile isFloatChar).length) := by
  simp only [signs, List.mem_cons, Prod.mk.injEq, List.not_mem_nil, or_false] at hsign
  rcases hsign with ⟨rfl, -⟩ | ⟨rfl, -⟩ | ⟨rfl, -⟩
  · rw [List.nil_append, looksLikeFloat]
    split
    · rename_i heq
      rw [(List.cons.inj heq).1] at hc
      cases hc
    · rename_i heq
      rw [(List.cons.inj heq).1] at hc
      cases hc
    · rfl
  all_goals rfl

section Integers

variable {base : Nat} {first : Char} {digits rest mark : List Char}
  (hbase : (mark, base) ∈ bases) (hfirst : isDigitOf base first = true)
  (hdigits : ∀ c ∈ digits, c = '_' ∨ isDigitOf base c = true) (hrest : Parted rest)

include hdigits in
theorem foldlM_integerValue (n : Nat) :
    digits.foldlM
        (fun n c =>
          if c = '_' then some n
          else if digitValue c < base then some (base * n + digitValue c)
          else none) n
      = some ((digits.filter (· ≠ '_')).foldl (fun n c => base * n + digitValue c) n) := by
  induction digits generalizing n with
  | nil => rfl
  | cons c digits ih =>
      have hlater := fun d hd => hdigits d (List.mem_cons_of_mem c hd)
      by_cases hc : c = '_'
      · simp [hc, ih hlater]
      · have hvalue := (isDigitOf_spec ((hdigits c (by simp)).resolve_left hc)).2.2
        simp [hc, hvalue, ih hlater]

include hfirst hdigits in
theorem integerValue?_digits :
    integerValue? base (first :: digits) = some (numeral base (first :: digits)) := by
  refine foldlM_integerValue (fun c hc => ?_) 0
  rcases List.mem_cons.mp hc with rfl | hc
  · exact .inr hfirst
  · exact hdigits c hc

include hfirst hdigits hrest in
theorem takeWhile_isIntegerChar :
    (first :: digits ++ rest).takeWhile isIntegerChar = first :: digits := by
  refine takeWhile_append (fun c hc => ?_)
    fun c hc => isIntegerChar_of_endsToken (hrest.endsToken hc)
  rcases List.mem_cons.mp hc with rfl | hc
  · exact (isDigitOf_spec hfirst).1
  · rcases hdigits c hc with rfl | hc
    · rfl
    · exact (isDigitOf_spec hc).1

include hbase hdigits hrest in
/-- A number without a mark does not seem to have one. -/
theorem skipBase_append (p : Position) :
    skipBase ⟨mark ++ (first :: digits ++ rest), p⟩
      = (base, ⟨first :: digits ++ rest, p.past mark⟩) := by
  simp only [bases, List.mem_cons, Prod.mk.injEq, List.not_mem_nil, or_false] at hbase
  rcases hbase with ⟨rfl, rfl⟩ | ⟨rfl, rfl⟩ | ⟨rfl, rfl⟩ | ⟨rfl, rfl⟩
  · have hsecond : ∀ c ∈ (digits ++ rest).head?, c ≠ 'x' ∧ c ≠ 'b' ∧ c ≠ 'o' := by
      intro c hc
      cases digits with
      | nil =>
          have hraw := (endsToken_spec (hrest.endsToken hc)).1
          refine ⟨?_, ?_, ?_⟩ <;> rintro rfl <;> cases hraw
      | cons d digits =>
          obtain rfl : d = c := Option.some.inj hc
          rcases hdigits d (by simp) with rfl | hd
          · decide
          · have hten := isDigitOf_ten hd
            refine ⟨?_, ?_, ?_⟩ <;> rintro rfl <;> cases hten
    rw [List.nil_append, List.cons_append, skipBase]
    split
    · rename_i heq
      exact absurd rfl (hsecond 'x' (by rw [(List.cons.inj heq).2]; rfl)).1
    · rename_i heq
      exact absurd rfl (hsecond 'b' (by rw [(List.cons.inj heq).2]; rfl)).2.1
    · rename_i heq
      exact absurd rfl (hsecond 'o' (by rw [(List.cons.inj heq).2]; rfl)).2.2
    · rfl
  all_goals rfl

include hbase hfirst in
/-- Behind the sign a whole number starts with a digit, its own or that of the mark. -/
theorem exists_isDigit (text : List Char) :
    ∃ c tail, mark ++ first :: text = c :: tail ∧ c.isDigit = true := by
  simp only [bases, List.mem_cons, Prod.mk.injEq, List.not_mem_nil, or_false] at hbase
  rcases hbase with ⟨rfl, rfl⟩ | ⟨rfl, rfl⟩ | ⟨rfl, rfl⟩ | ⟨rfl, rfl⟩
  · exact ⟨first, text, rfl, isDigitOf_ten hfirst⟩
  all_goals exact ⟨'0', _, rfl, rfl⟩

include hbase hfirst hdigits hrest in
theorem length_takeWhile_isFloatChar_le :
    ((mark ++ (first :: digits ++ rest)).takeWhile isFloatChar).length
      ≤ ((mark ++ (first :: digits ++ rest)).takeWhile isIntegerChar).length := by
  simp only [bases, List.mem_cons, Prod.mk.injEq, List.not_mem_nil, or_false] at hbase
  rcases hbase with ⟨rfl, rfl⟩ | ⟨rfl, rfl⟩ | ⟨rfl, rfl⟩ | ⟨rfl, rfl⟩
  · have hfloat : ∀ c, c = '_' ∨ isDigitOf 10 c = true → isFloatChar c = true := by
      rintro c (rfl | hc)
      · rfl
      · simp only [isFloatChar, isDigitOf_ten hc, Bool.true_or]
    have hall : ∀ c ∈ first :: digits, isFloatChar c = true := by
      intro c hc
      rcases List.mem_cons.mp hc with rfl | hc
      · exact hfloat c (.inr hfirst)
      · exact hfloat c (hdigits c hc)
    rw [List.nil_append, takeWhile_isIntegerChar hfirst hdigits hrest,
      takeWhile_append hall fun c hc => (endsToken_spec (hrest.endsToken hc)).2.1]
  -- the letter of the mark ends what could be a number with a point
  all_goals exact Nat.succ_le_succ (Nat.zero_le _)

end Integers

/-- **A whole number of 64 bits** is gone past. -/
theorem skips_skipNumber {n : Int} {text rest : List Char} (h : IntegerText n text)
    (hlow : -0x8000000000000000 ≤ n) (hhigh : n ≤ 0x7fffffffffffffff) (hrest : Parted rest) :
    Skips skipNumber text rest := by
  obtain @⟨sign, mark, digits, unit, base, first, hsign, hbase, hfirst, hdigits⟩ := h
  intro p
  have hbody : sign ++ (mark ++ first :: digits) ++ rest
      = sign ++ (mark ++ (first :: digits ++ rest)) := by simp
  obtain ⟨c, tail, hcons, hc⟩ := exists_isDigit hbase hfirst (digits ++ rest)
  obtain ⟨limit, hskip, hlimit⟩ := skipSign_append hsign hc tail p
  rw [← hcons, ← List.cons_append] at hskip
  have hfits : numeral base (first :: digits) ≤ limit := hlimit _ hlow hhigh
  have hfloat : looksLikeFloat ⟨sign ++ (mark ++ (first :: digits ++ rest)), p⟩ = false := by
    rw [List.cons_append, hcons, looksLikeFloat_append hsign hc, ← hcons, ← List.cons_append,
      decide_eq_false_iff_not, Nat.not_lt]
    exact length_takeWhile_isFloatChar_le hbase hfirst hdigits hrest
  have hinteger : skipInteger ⟨sign ++ (mark ++ (first :: digits ++ rest)), p⟩
      = (⟨rest, ((p.past sign).past mark).past (first :: digits)⟩, true) := by
    simp only [skipInteger, hskip, skipBase_append hbase hdigits hrest,
      takeWhile_isIntegerChar hfirst hdigits hrest, integerValue?_digits hfirst hdigits]
    split
    · rename_i heq
      cases heq
    · rename_i heq
      exact absurd (List.cons.inj heq).1 (isDigitOf_spec hfirst).2.1
    · simp only [drop_append, hfits, decide_true]
  rw [hbody, skipNumber, hfloat, hinteger]
  simp only [Bool.false_eq_true, if_false, Position.past_append]

/-! ## Values -/

/-- The texts of values that hold no others: truth values, whole numbers of 64 bits and strings. -/
inductive Scalar : List Char → Prop
  | truth {word : String} : word ∈ ["true", "false"] → Scalar word.toList
  | integer {n : Int} {text : List Char} : IntegerText n text → -0x8000000000000000 ≤ n →
      n ≤ 0x7fffffffffffffff → Scalar text
  | string {spelling text : List Char} : Spelled spelling text →
      Scalar ('"' :: (spelling ++ ['"']))

/-- The texts of values that hold values with the texts `Inner`. -/
inductive ValueOf (Inner : List Char → Prop) : List Char → Prop
  | scalar {text : List Char} : Scalar text → ValueOf Inner text
  | list {items : List Unit} {blank row : List Char} : Blank blank →
      Row (fun _ => Inner) items row → ValueOf Inner ('[' :: (blank ++ row ++ [']']))
  | tuple {items : List Unit} {blank row : List Char} : Blank blank →
      Row (fun _ => Inner) items row → ValueOf Inner ('(' :: (blank ++ row ++ [')']))

/-- The texts of values in which lists and tuples are nested up to a depth. -/
def ValueText : Nat → List Char → Prop
  | 0 => Scalar
  | n + 1 => ValueOf (ValueText n)

theorem Scalar.value {text : List Char} (h : Scalar text) (nesting : Nat) :
    ValueText nesting text := by
  cases nesting with
  | zero => exact h
  | succ nesting => exact ValueOf.scalar h

theorem startsWith_eq_false {word : String} {d e : Char} {tail : List Char}
    (hword : word.toList = d :: e :: tail) {c : Char} {text : List Char}
    (h : d = c → ∀ f ∈ text.head?, f ≠ e) (p : Position) :
    startsWith ⟨c :: text, p⟩ word = false := by
  rw [startsWith, hword, Bool.eq_false_iff, Ne, List.isPrefixOf_iff_prefix, List.cons_prefix_cons]
  rintro ⟨hc, hprefix⟩
  cases text with
  | nil => simp at hprefix
  | cons f text => exact h hc f rfl (List.cons_prefix_cons.mp hprefix).1.symm

/-- The words of values start like names, but for one that starts like a number. -/
theorem exists_of_mem_valueWords {word : String} (h : word ∈ "Some" :: valueWords) :
    ∃ d e tail, word.toList = d :: e :: tail ∧ (isNameStart d = true ∨ d = '-' ∧ e = 'i') := by
  simp only [valueWords, List.mem_cons, List.not_mem_nil, or_false] at h
  rcases h with rfl | rfl | rfl | rfl | rfl | rfl | rfl
  all_goals exact ⟨_, _, _, rfl, by decide⟩

/-- A value without a name of its own is told by its first character. -/
theorem skipValueWith_of_not_start {c : Char} {text : List Char} (hc : isNameStart c = false)
    (hminus : c = '-' → ∀ d ∈ text.head?, d ≠ 'i') (hunit : c = '(' → ∀ d ∈ text.head?, d ≠ ')')
    (bare : Bool) (inside : Inside) (p : Position) :
    skipValueWith bare inside ⟨c :: text, p⟩ = skipUnnamed inside ⟨c :: text, p⟩ := by
  have hwords : ∀ word ∈ "Some" :: valueWords, startsWithWord ⟨c :: text, p⟩ word = false := by
    intro word hword
    obtain ⟨d, e, tail, hlist, hstart⟩ := exists_of_mem_valueWords hword
    have hother : d = c → ∀ f ∈ text.head?, f ≠ e := by
      rintro rfl
      rcases hstart with hstart | ⟨rfl, rfl⟩
      · rw [hc] at hstart
        cases hstart
      · exact hminus rfl
    rw [startsWithWord, startsWith_eq_false hlist hother, Bool.false_and]
  have hsome : consumeWord? ⟨c :: text, p⟩ "Some" = none := by
    rw [consumeWord?, hwords "Some" (List.mem_cons_self ..)]
    rfl
  have hfind : valueWords.find? (startsWithWord ⟨c :: text, p⟩) = none := by
    rw [List.find?_eq_none]
    intro word hword
    rw [hwords word (List.mem_cons_of_mem _ hword)]
    exact Bool.false_ne_true
  have hparens : consume? ⟨c :: text, p⟩ "()" = none := by
    have hlist : "()".toList = '(' :: ')' :: [] := rfl
    rw [consume?, startsWith_eq_false hlist fun h => hunit h.symm]
    rfl
  obtain ⟨failure, hname⟩ := readName_of_not_start hc text p
  simp only [skipValueWith, hsome, hfind, hparens, hname]

theorem IntegerText.starts {n : Int} {text : List Char} (h : IntegerText n text) :
    ∃ c tail, text = c :: tail ∧ (c.isDigit = true ∨ c ∈ ['+', '-']) ∧
      (c = '-' → ∃ d ∈ tail.head?, d.isDigit = true) := by
  obtain @⟨sign, mark, digits, unit, base, first, hsign, hbase, hfirst, -⟩ := h
  obtain ⟨c, tail, hcons, hc⟩ := exists_isDigit hbase hfirst digits
  rw [hcons]
  simp only [signs, List.mem_cons, Prod.mk.injEq, List.not_mem_nil, or_false] at hsign
  rcases hsign with ⟨rfl, -⟩ | ⟨rfl, -⟩ | ⟨rfl, -⟩
  · refine ⟨c, tail, rfl, .inl hc, ?_⟩
    rintro rfl
    cases hc
  · exact ⟨'+', c :: tail, rfl, by decide, nofun⟩
  · exact ⟨'-', c :: tail, rfl, by decide, fun _ => ⟨c, rfl, hc⟩⟩

/-- A value is a truth value, or its first character tells of which kind it is. -/
theorem ValueText.starts {depth : Nat} {text : List Char} (h : ValueText depth text) :
    (∃ word ∈ ["true", "false"], text = word.toList) ∨
      ∃ c tail, text = c :: tail ∧ (c.isDigit = true ∨ c ∈ ['+', '-', '"', '[', '(']) := by
  have hscalar : Scalar text → (∃ word ∈ ["true", "false"], text = word.toList) ∨
      ∃ c tail, text = c :: tail ∧ (c.isDigit = true ∨ c ∈ ['+', '-', '"', '[', '(']) := by
    rintro (hword | ⟨hinteger, -, -⟩ | _)
    · exact .inl ⟨_, hword, rfl⟩
    · obtain ⟨c, tail, htext, hc, -⟩ := hinteger.starts
      exact .inr ⟨c, tail, htext, hc.imp_right fun hc => List.mem_append_left ['"', '[', '('] hc⟩
    · exact .inr ⟨'"', _, rfl, by decide⟩
  cases depth with
  | zero => exact hscalar h
  | succ depth =>
      cases h with
      | scalar h => exact hscalar h
      | list _ _ => exact .inr ⟨'[', _, rfl, by decide⟩
      | tuple _ _ => exact .inr ⟨'(', _, rfl, by decide⟩

theorem isNameStart_eq_false_of_isDigit {c : Char} (hc : c.isDigit = true) :
    isNameStart c = false := by
  have hrange : '0' ≤ c ∧ c ≤ '9' :=
    (Bool.and_eq_true_iff.trans (and_congr decide_eq_true_iff decide_eq_true_iff)).mp hc
  have hsmall : c.toNat < 58 := Nat.lt_of_le_of_lt hrange.2 (by decide)
  exact Text.of_toNat_lt (P := fun c => c.isDigit = true → isNameStart c = false) (by decide)
    hsmall hc

theorem endsToken_eq_false_of_isDigit {c : Char} (hc : c.isDigit = true) : endsToken c = false := by
  cases hends : endsToken c with
  | false => rfl
  | true =>
      have hraw := (endsToken_spec hends).1
      simp [isRawNameChar, isNameChar, hc] at hraw

theorem ValueText.opens {depth : Nat} {text : List Char} (h : ValueText depth text) {close : Char}
    (hclose : close ∈ closers) : Opens close text := by
  have hchar : ∀ {c : Char} (tail : List Char), c ∈ ['t', 'f', '+', '-', '"', '[', '('] →
      Opens close (c :: tail) := by
    intro c tail hc
    simp only [closers, List.mem_cons, List.not_mem_nil, or_false] at hclose hc
    rcases hc with rfl | rfl | rfl | rfl | rfl | rfl | rfl
    all_goals rcases hclose with rfl | rfl | rfl
    all_goals exact ⟨by decide, by decide, by decide⟩
  rcases h.starts with ⟨word, hword, rfl⟩ | ⟨c, tail, rfl, hc | hc⟩
  · simp only [List.mem_cons, List.not_mem_nil, or_false] at hword
    rcases hword with rfl | rfl
    · exact hchar "rue".toList (by decide)
    · exact hchar "alse".toList (by decide)
  · have hends := endsToken_eq_false_of_isDigit hc
    obtain ⟨hseparator, hslash, -⟩ := opens_of_not_endsToken hends tail
    refine ⟨hseparator, hslash, ?_⟩
    rintro rfl
    rw [(closers_spec c hclose).1] at hends
    cases hends
  · exact hchar tail (List.mem_append_right ['t', 'f'] hc)

/-- Where a value seems to be a name, that is all of it. -/
theorem ValueText.readName_cases {depth : Nat} {text rest : List Char} (h : ValueText depth text)
    (hrest : Parted rest) (p : Position) :
    (∃ failure, readName ⟨text ++ rest, p⟩ = .error failure) ∨
      ∃ name, readName ⟨text ++ rest, p⟩ = .ok (name, ⟨rest, p.past text⟩) := by
  rcases h.starts with ⟨word, hword, rfl⟩ | ⟨c, tail, rfl, hc⟩
  · have hname : ∀ word ∈ ["true", "false"], isPlainName word.toList = true := by decide
    exact .inr ⟨_, reads_readName (hname word hword) hrest p⟩
  · have hstart : isNameStart c = false := by
      rcases hc with hc | hc
      · exact isNameStart_eq_false_of_isDigit hc
      · simp only [List.mem_cons, List.not_mem_nil, or_false] at hc
        rcases hc with rfl | rfl | rfl | rfl | rfl
        all_goals rfl
    exact .inl (readName_of_not_start hstart (tail ++ rest) p)

/-! ## Going past a value -/

theorem valueWords_parted : ∀ word ∈ "Some" :: valueWords, ∀ c ∈ word.toList,
    endsToken c = false := by
  have hall : ("Some" :: valueWords).all
      (fun word => word.toList.all fun c => !endsToken c) = true := by decide
  simpa using hall

/-- A truth value on its own is found among the words. -/
theorem truth_spec : ∀ word ∈ ["true", "false"],
    startsWithWord ⟨word.toList, {}⟩ "Some" = false ∧
      valueWords.find? (startsWithWord ⟨word.toList, {}⟩) = some word := by
  decide

theorem skips_truth {word : String} (hword : word ∈ ["true", "false"]) {rest : List Char}
    (hrest : Parted rest) (bare : Bool) (inside : Inside) :
    Skips (skipValueWith bare inside) word.toList rest := by
  obtain ⟨hsome, hfind⟩ := truth_spec word hword
  intro p
  have halone : ∀ w ∈ "Some" :: valueWords, startsWithWord ⟨word.toList ++ rest, p⟩ w
      = startsWithWord ⟨word.toList, {}⟩ w :=
    fun w hw => startsWithWord_append (valueWords_parted w hw) hrest word.toList p {}
  rw [← halone "Some" (List.mem_cons_self ..)] at hsome
  rw [← List.find?_congr fun w hw => halone w (List.mem_cons_of_mem _ hw)] at hfind
  simp only [skipValueWith, consumeWord?, hsome, Bool.false_eq_true, if_false, hfind,
    ← String.length_toList, drop_append]

theorem skipValueWith_integer {n : Int} {text rest : List Char} (h : IntegerText n text)
    (bare : Bool) (inside : Inside) (p : Position) :
    skipValueWith bare inside ⟨text ++ rest, p⟩ = skipNumber ⟨text ++ rest, p⟩ := by
  obtain ⟨c, tail, rfl, hc, hminus⟩ := h.starts
  have hother : isNameStart c = false ∧ c ≠ '(' ∧ c ≠ '[' ∧ c ≠ '\x7b' := by
    rcases hc with hc | hc
    · refine ⟨isNameStart_eq_false_of_isDigit hc, ?_, ?_, ?_⟩
      all_goals rintro rfl; cases hc
    · simp only [List.mem_cons, List.not_mem_nil, or_false] at hc
      rcases hc with rfl | rfl
      all_goals decide
  have hnumber : (c.isDigit || c == '+' || c == '-') = true := by
    simpa [or_assoc] using hc
  obtain ⟨hstart, hparen, hbracket, hbrace⟩ := hother
  rw [List.cons_append, skipValueWith_of_not_start hstart _ fun h => absurd h hparen]
  · simp only [skipUnnamed, if_neg hparen, if_neg hbracket, if_neg hbrace, hnumber, if_true]
  · rintro hc d hd rfl
    obtain ⟨e, he, hdigit⟩ := hminus hc
    cases tail with
    | nil => cases he
    | cons e tail => simp_all

/-- **A value that holds no others** is gone past at any depth. -/
theorem Scalar.skips {text : List Char} (h : Scalar text) {rest : List Char} (hrest : Parted rest)
    (bare : Bool) (inside : Inside) : Skips (skipValueWith bare inside) text rest := by
  cases h with
  | truth hword => exact skips_truth hword hrest bare inside
  | integer hinteger hlow hhigh =>
      intro p
      rw [skipValueWith_integer hinteger]
      exact skips_skipNumber hinteger hlow hhigh hrest p
  | @string spelling text hspelled =>
      intro p
      have htext : (String.ofList text).toList = text := String.toList_ofList
      have hread := reads_readString (htext.symm ▸ hspelled) rest p
      rw [List.cons_append] at hread ⊢
      have hminus : '"' = '-' → ∀ d ∈ (spelling ++ ['"'] ++ rest).head?, d ≠ 'i' := nofun
      have hunit : '"' = '(' → ∀ d ∈ (spelling ++ ['"'] ++ rest).head?, d ≠ ')' := nofun
      rw [skipValueWith_of_not_start (by decide) hminus hunit]
      show (·.2) <$> readString _ = _
      rw [hread]
      rfl

theorem exists_skipValue_eq (bare : Bool) (depth : Nat) :
    ∃ inside, skipValue bare depth = skipValueWith bare inside := by
  match depth with
  | 0 => exact ⟨_, rfl⟩
  | 1 => exact ⟨_, rfl⟩
  | _ + 2 => exact ⟨_, rfl⟩

section Rows

variable {Inner : List Char → Prop} {items : List Unit} {blank row : List Char}

/-- **The items of a list or a tuple** are gone past, and what closes it. -/
theorem skips_skipItems {close : Char} (hclose : close ∈ closers)
    (hopens : ∀ text, Inner text → Opens close text) {skip : Skipper}
    (hskip : ∀ text rest, Inner text → Parted rest → Skips skip text rest) (hblank : Blank blank)
    (hrow : Row (fun _ => Inner) items row) (fault : Fault) (rest : List Char) :
    Skips (skipItems close skip fault) (blank ++ row ++ [close]) rest := by
  have hitems : Gives (readItems close (fun () t => (fun u => ((), u)) <$> skip t) () true)
      (blank ++ row) (close :: rest) (items.foldlM (fun () _ => .ok ()) ()) := by
    refine gives_readItems (fun _ => hopens) hclose ?_ hrow hblank () rest
    intro acc i text rest htext hrest p
    simp only [hskip text rest htext hrest p]
    rfl
  have hok : items.foldlM (fun () _ => (.ok () : Except Fault Unit)) () = .ok () :=
    List.foldlM_pure
  rw [hok] at hitems
  intro p
  have hcloses := skipText_cons (String.singleton close) (c := close) (by simp) fault rest
  rw [List.append_assoc, List.singleton_append]
  simp only [skipItems, hitems p, bind, Except.bind, hcloses, Position.past_append,
    Position.past_cons, Position.past_nil]

end Rows

/-- A row of values is not taken for the fields of a structure: no colon follows the first. -/
theorem startsField_row {depth : Nat} {items : List Unit} {blank row : List Char}
    (hblank : Blank blank) (hrow : Row (fun _ => ValueText depth) items row) (rest : List Char)
    (p : Position) : startsField ⟨'(' :: (blank ++ (row ++ ')' :: rest)), p⟩ = .ok false := by
  have hclose : ')' ∈ closers := by decide
  have hstill := hrow.still (fun _ _ h => h.opens hclose) hclose rest
  have hskip := skips_skipBlank hblank hstill (p.after '(')
  -- a value is followed by a comma or by the end of the row
  have hitem : ∀ (c : Char) (tail : List Char) {text gap : List Char}, ValueText depth text →
      Blank gap → c ∈ [',', ')'] → row ++ ')' :: rest = text ++ (gap ++ c :: tail) →
      startsField ⟨'(' :: (blank ++ (row ++ ')' :: rest)), p⟩ = .ok false := by
    intro c tail text gap htext hgap hc hsplit
    obtain ⟨hends, hseparator, hslash, hcolon⟩ :
        endsToken c = true ∧ isSeparator c = false ∧ c ≠ '/' ∧ (c == ':') = false := by
      simp only [List.mem_cons, List.not_mem_nil, or_false] at hc
      rcases hc with rfl | rfl
      all_goals decide
    have hafter := skips_skipBlank hgap (still_cons hseparator hslash tail)
    rw [hsplit] at hskip ⊢
    rcases htext.readName_cases (hgap.parted_cons hends tail) ((p.after '(').past blank) with
      ⟨failure, hname⟩ | ⟨name, hname⟩
    · simp only [startsField, drop_one, hskip, bind, Except.bind, hname]
      rfl
    · simp only [startsField, drop_one, hskip, bind, Except.bind, hname, hafter _, hcolon]
      rfl
  cases hrow with
  | nil =>
      obtain ⟨failure, hname⟩ :=
        readName_of_not_start (by decide : isNameStart ')' = false) rest ((p.after '(').past blank)
      rw [List.nil_append] at hskip ⊢
      simp only [startsField, drop_one, hskip, bind, Except.bind, hname]
      rfl
  | @last _ text gap htext hgap =>
      exact hitem ')' rest htext hgap (by decide) (by rw [List.append_assoc])
  | @cons _ _ text before after row htext hbefore _ _ =>
      exact hitem ',' (after ++ (row ++ ')' :: rest)) htext hbefore (by decide) (by simp)

theorem skipValueWith_unit (bare : Bool) (inside : Inside) (rest : List Char) (p : Position) :
    skipValueWith bare inside ⟨'(' :: ')' :: rest, p⟩ = .ok ⟨rest, p.past ['(', ')']⟩ := by
  rfl

theorem skipValueWith_bracket (bare : Bool) (inside : Inside) (rest : List Char) (p : Position) :
    skipValueWith bare inside ⟨'[' :: rest, p⟩
      = skipSequence inside ']' skipElement .expectedListEnd ⟨rest, p.after '['⟩ := by
  have hstart : isNameStart '[' = false := by decide
  rw [skipValueWith_of_not_start hstart (fun h => absurd h (by decide))
    fun h => absurd h (by decide)]
  rfl

section Nested

variable {bare : Bool} {option skip : Skipper} {depth : Nat} {items : List Unit}
  {blank row : List Char} (hblank : Blank blank)
  (hrow : Row (fun _ => ValueText depth) items row)

include hblank hrow in
/-- Only a row without anything in it starts with what closes it. -/
theorem head_ne_of_row (hne : blank ++ row ≠ []) (rest : List Char) :
    ∀ c ∈ (blank ++ row ++ rest).head?, c ≠ ')' := by
  have hclose : ')' ∈ closers := by decide
  have hitem : ∀ {text : List Char} (more : List Char), ValueText depth text →
      ∀ c ∈ (text ++ more).head?, c ≠ ')' := by
    intro text more htext c hc
    have hopens := htext.opens hclose
    cases text with
    | nil => cases hopens
    | cons d text =>
        obtain rfl : d = c := Option.some.inj hc
        exact hopens.2.2
  cases hblank with
  | separator hseparator _ =>
      rintro c ⟨⟩ rfl
      cases hseparator
  | lineComment _ _ =>
      rintro c ⟨⟩
      decide
  | blockComment _ _ =>
      rintro c ⟨⟩
      decide
  | nil =>
      cases hrow with
      | nil => exact absurd rfl hne
      | last htext _ =>
          rw [List.nil_append, List.append_assoc]
          exact hitem _ htext
      | cons htext _ _ _ =>
          rw [List.nil_append, List.append_assoc]
          exact hitem _ htext

variable (hskip : ∀ text rest, ValueText depth text → Parted rest → Skips skip text rest)

include hblank hrow hskip

/-- **A list** is gone past where its elements are. -/
theorem skips_list (rest : List Char) :
    Skips (skipValueWith bare ⟨option, some (some skip)⟩) ('[' :: (blank ++ row ++ [']']))
      rest := by
  intro p
  have hclose : ']' ∈ closers := by decide
  have hitems := skips_skipItems hclose (fun text h => h.opens hclose) hskip hblank hrow
    .expectedListEnd rest (p.after '[')
  rw [List.cons_append, skipValueWith_bracket]
  exact hitems

/-- **A tuple** is gone past where its elements are. -/
theorem skips_tuple (rest : List Char) :
    Skips (skipValueWith bare ⟨option, some (some skip)⟩) ('(' :: (blank ++ row ++ [')']))
      rest := by
  intro p
  have hclose : ')' ∈ closers := by decide
  have hitems := skips_skipItems hclose (fun text h => h.opens hclose) hskip hblank hrow
    .expectedClosing rest (p.after '(')
  have hfield := startsField_row hblank hrow rest p
  have hstart : isNameStart '(' = false := by decide
  by_cases hempty : blank ++ row = []
  · -- two parentheses on their own are a word
    rw [hempty]
    exact skipValueWith_unit bare _ rest p
  · have hhead := head_ne_of_row hblank hrow hempty (')' :: rest)
    simp only [List.cons_append, List.append_assoc, List.nil_append] at hitems hhead ⊢
    rw [skipValueWith_of_not_start hstart (fun h => absurd h (by decide)) fun _ => hhead]
    have hopens : startsWith ⟨'(' :: (blank ++ (row ++ ')' :: rest)), p⟩ "(" = true := by
      simp [startsWith]
    simp only [skipUnnamed, if_true, skipBody, hopens, hfield]
    exact hitems

end Nested

/-- **A nested value** is gone past where two levels are left for each level of nesting: one for
the list or the tuple, and one for its elements. By induction on the nesting. -/
theorem skips_skipValue (bare : Bool) {nesting depth : Nat} {text rest : List Char}
    (h : ValueText nesting text) (hdepth : 2 * nesting ≤ depth) (hrest : Parted rest) :
    Skips (skipValue bare depth) text rest := by
  induction nesting generalizing depth text rest with
  | zero =>
      obtain ⟨inside, hinside⟩ := exists_skipValue_eq bare depth
      rw [hinside]
      exact Scalar.skips h hrest bare inside
  | succ nesting ih =>
      obtain ⟨depth, rfl⟩ : ∃ n, depth = n + 2 := ⟨depth - 2, by omega⟩
      have hskip : ∀ text rest, ValueText nesting text → Parted rest →
          Skips (skipValue bare depth) text rest := fun _ _ h hrest => ih h (by omega) hrest
      rw [skipValue]
      cases h with
      | scalar h => exact h.skips hrest bare _
      | list hblank hrow => exact skips_list hblank hrow hskip rest
      | tuple hblank hrow => exact skips_tuple hblank hrow hskip rest

end TextAdventure.Settings.Source
