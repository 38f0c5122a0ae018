import Scaffold.Proofs.Version.Pattern

/-!
What is read at the start of a text: the numbers and the tag of its greedy reading, or why there are
none. A version that is printed is read back.
-/

namespace Scaffold.Version

open Text
open Text.Language

/-! Reading. -/

theorem number_component (run : List Char) :
    Component.number (component run) = number 0 (numeral run) := by
  cases run with
  | nil => rfl
  | cons mark run =>
      rw [component, numeral]
      split <;> rfl

/-- What comes of a reading of a text: the first row of digits that does not fit is what is wrong. -/
def Reading.outcome (r : Reading) (s : String) : Except VersionError Version :=
  if r.major = [] then .error (.invalidFormat s)
  else (r.numerals.find? fun digits => ¬Fits digits).elim (.ok r.version) fun digits =>
    .error (fault digits)

theorem Reading.outcome_rest {r : Reading} (some : r.major ≠ []) (rest : List Char) (s t : String) :
    { r with rest := rest }.outcome t = r.outcome s := by
  simp only [Reading.outcome, if_neg some, Reading.numerals, Reading.version]

theorem number_bind (digits : List Char) (next : Nat → Except VersionError Version) :
    number 0 digits >>= next =
      if Fits digits then next (digitsToNat digits) else .error (fault digits) := by
  rw [number_zero]
  split <;> rfl

theorem find?_misfit_cons (row : List Char) (rows : List (List Char)) :
    (row :: rows).find? (fun digits => ¬Fits digits) =
      if Fits row then rows.find? (fun digits => ¬Fits digits) else some row := by
  by_cases fits : Fits row
  · rw [if_pos fits, List.find?_cons_of_neg (by simpa using fits)]
  · rw [if_neg fits, List.find?_cons_of_pos (by simpa using fits)]

theorem parse_of_reads {r : Reading} {s : String} (reads : r.Reads s.toList) :
    parse s = r.outcome s := by
  obtain ⟨r', reads', parts⟩ := exists_reads s.toList
  cases reads.unique reads'
  rw [parse, parts, Reading.outcome]
  by_cases none : r.major = []
  · rw [if_pos none, if_pos none]
  · rw [if_neg none, if_neg none, Reading.numerals, find?_misfit_cons, find?_misfit_cons,
      find?_misfit_cons]
    simp only [Reading.parts, number_component, number_bind]
    by_cases major : Fits r.major
    · rw [if_pos major, if_pos major]
      by_cases minor : Fits (numeral r.minor)
      · rw [if_pos minor, if_pos minor]
        by_cases patch : Fits (numeral r.patch)
        · rw [if_pos patch, if_pos patch]
          rfl
        · rw [if_neg patch, if_neg patch]
          rfl
      · rw [if_neg minor, if_neg minor]
        rfl
    · rw [if_neg major, if_neg major]
      rfl

example : parse "~> v1.X.\u0663-rc <2" = .error .foreignDigit := by
  decide

/-! Printing. -/

def tagText : Option String → List Char
  | none => []
  | some tag => '-' :: tag.toList

/-- A version with all its numbers, without a preface. -/
def text (v : Version) : List Char :=
  Nat.toDigits 10 v.major ++ ('.' :: (Nat.toDigits 10 v.minor ++
    ('.' :: (Nat.toDigits 10 v.patch ++ tagText v.prerelease))))

/-- Whether a text that stands behind a version cannot be taken for more of it. -/
def Ends (tag : Option String) (rest : List Char) : Prop :=
  match tag with
  | none => (∀ c ∈ rest.head?, ¬isDecimalDigit c) ∧ Absent (After '-' (Many isTagChar)) rest
  | some _ => ∀ c ∈ rest.head?, ¬isTagChar c

/-- Whether a version can be written: its numbers have at most 64 bits, and its tag, if there is one,
is not empty and has characters of tags only. -/
structure Printable (v : Version) : Prop where
  major : v.major < UInt64.size
  minor : v.minor < UInt64.size
  patch : v.patch < UInt64.size
  tag : ∀ tag ∈ v.prerelease, Many isTagChar tag.toList

theorem longest_numeral (n : Nat) {rest : List Char} (stops : ∀ c ∈ rest.head?, ¬isDecimalDigit c) :
    Longest (Optional (After '.' Numeral)) ('.' :: (Nat.toDigits 10 n ++ rest))
      ('.' :: Nat.toDigits 10 n) rest := by
  have digits : Many isDecimalDigit (Nat.toDigits 10 n) :=
    ⟨Nat.toDigits_ne_nil, isDecimalDigit_of_mem_toDigits⟩
  have longest := longest_many digits stops
  exact ((longest.left (absent_wildcard longest)).after '.').optional

theorem numeral_digits {mark : Char} {digits : List Char} (all : ∀ c ∈ digits, isDecimalDigit c) :
    numeral (mark :: digits) = digits := by
  rw [numeral, any_isWildcard_digits all]
  rfl

theorem longest_tagText {tag : Option String} {rest : List Char}
    (proper : ∀ text ∈ tag, Many isTagChar text.toList) (ends : Ends tag rest) :
    Longest (Optional (After '-' (Many isTagChar))) (tagText tag ++ rest) (tagText tag) rest := by
  cases tag with
  | none => exact longest_nil ends.2
  | some text => exact ((longest_many (proper text rfl) ends).after '-').optional

theorem not_isDecimalDigit_of_ends {tag : Option String} {rest : List Char} (ends : Ends tag rest) :
    ∀ c ∈ (tagText tag ++ rest).head?, ¬isDecimalDigit c := by
  cases tag with
  | none => exact ends.1
  | some text =>
      rintro c ⟨⟩
      decide

theorem tagOf_tagText (tag : Option String) : tagOf (tagText tag) = tag := by
  cases tag with
  | none => rfl
  | some text => exact congrArg some String.ofList_toList

section Printed

variable {v : Version} {lead operator gap mark rest : List Char}

theorem text_append (v : Version) (rest : List Char) : text v ++ rest =
    Nat.toDigits 10 v.major ++ ('.' :: (Nat.toDigits 10 v.minor ++
      ('.' :: (Nat.toDigits 10 v.patch ++ (tagText v.prerelease ++ rest))))) := by
  simp only [text, List.append_assoc, List.cons_append]

theorem scans_text (printable : Printable v) (ends : Ends v.prerelease rest) :
    Scans body (text v ++ rest) [Nat.toDigits 10 v.major, '.' :: Nat.toDigits 10 v.minor,
      '.' :: Nat.toDigits 10 v.patch, tagText v.prerelease] rest := by
  have point : ∀ {later : List Char}, ∀ c ∈ ('.' :: later).head?, ¬isDecimalDigit c := by
    rintro later c ⟨⟩
    decide
  rw [text_append]
  exact .cons (longest_runOf isDecimalDigit_of_mem_toDigits point) (.cons (longest_numeral _ point)
    (.cons (longest_numeral _ (not_isDecimalDigit_of_ends ends))
      (.cons (longest_tagText printable.tag ends) (.nil rest))))

theorem parse_text (printable : Printable v) (preface : IsPreface lead operator gap mark)
    (ends : Ends v.prerelease rest) :
    parse (String.ofList (lead ++ (operator ++ (gap ++ (mark ++ (text v ++ rest)))))) = .ok v := by
  have number : ∀ c ∈ (text v ++ rest).head?, isDecimalDigit c := by
    have filled : Nat.toDigits 10 v.major ≠ [] := Nat.toDigits_ne_nil
    rw [text_append, List.head?_append_of_ne_nil _ filled]
    exact fun c first => isDecimalDigit_of_mem_toDigits c (List.mem_of_mem_head? first)
  obtain ⟨lead', operator', gap', prefaced⟩ := preface.scans number
  let r : Reading := ⟨lead', operator', gap', mark, Nat.toDigits 10 v.major,
    '.' :: Nat.toDigits 10 v.minor, '.' :: Nat.toDigits 10 v.patch, tagText v.prerelease, rest⟩
  have reads : r.Reads (lead ++ (operator ++ (gap ++ (mark ++ (text v ++ rest))))) :=
    prefaced.append (scans_text printable ends)
  have numerals : r.numerals =
      [Nat.toDigits 10 v.major, Nat.toDigits 10 v.minor, Nat.toDigits 10 v.patch] := by
    simp only [Reading.numerals, r, numeral_digits isDecimalDigit_of_mem_toDigits]
  have fit : ∀ row ∈ r.numerals, Fits row := by
    simp only [numerals, List.forall_mem_cons]
    exact ⟨fits_toDigits printable.major, fits_toDigits printable.minor,
      fits_toDigits printable.patch, List.forall_mem_nil _⟩
  have version : r.version = v := by
    simp only [Reading.version, r, numeral_digits isDecimalDigit_of_mem_toDigits, digitsToNat_toDigits,
      tagOf_tagText]
  rw [parse_of_reads (by rwa [String.toList_ofList]), Reading.outcome, if_neg Nat.toDigits_ne_nil,
    List.find?_eq_none.2 (by simpa using fit)]
  exact congrArg Except.ok version

end Printed

/-- A text is read greedily, and in one way only. The search for the expression captures what this
reading takes the text apart into, and fails if no digit stands where the major number should be. What
is parsed is read off the captured parts, so any text may follow that does not change them; and every
version that can be printed is read back, behind any preface and before any text that ends it. -/
theorem parse_reads :
    (∀ s : String, ∃ r : Reading, r.Reads s.toList ∧
      (∀ other : Reading, other.Reads s.toList → other = r) ∧
      (pattern.find? s.toList).map (·.groups) = (if r.major = [] then none else some r.groups) ∧
      parse s = r.outcome s ∧
      ∀ (t : String) (rest : List Char), r.major ≠ [] → { r with rest := rest }.Reads t.toList →
        parse t = parse s) ∧
    ∀ (v : Version) (lead operator gap mark rest : List Char), Printable v →
      IsPreface lead operator gap mark → Ends v.prerelease rest →
      parse (String.ofList (lead ++ (operator ++ (gap ++ (mark ++ (text v ++ rest)))))) = .ok v := by
  constructor
  · intro s
    obtain ⟨r, reads, -⟩ := exists_reads s.toList
    refine ⟨r, reads, fun other reads' => reads'.unique reads, find?_pattern reads,
      parse_of_reads reads, ?_⟩
    intro t rest some followed
    rw [parse_of_reads reads, parse_of_reads followed]
    exact Reading.outcome_rest some rest s t
  · intro v lead operator gap mark rest printable preface ends
    exact parse_text printable preface ends

theorem parse_reads_greatest :
    parse " ~>\u2003V18446744073709551615.0.7-rc.1-x <2" =
      .ok ⟨18446744073709551615, 0, 7, some "rc.1-x"⟩ := by
  have printable : Printable ⟨18446744073709551615, 0, 7, some "rc.1-x"⟩ := by
    refine ⟨by decide, by decide, by decide, ?_⟩
    rintro tag ⟨⟩
    exact ⟨by decide, List.all_eq_true.1 (by decide)⟩
  have preface : IsPreface [' '] ['~', '>'] ['\u2003'] ['V'] :=
    ⟨List.all_eq_true.1 (by decide), .inr (by decide), List.all_eq_true.1 (by decide),
      .inr ⟨'V', rfl, rfl⟩⟩
  have ends : Ends (some "rc.1-x") [' ', '<', '2'] := by
    rintro c ⟨⟩
    decide
  have printed : String.ofList ([' '] ++ (['~', '>'] ++ (['\u2003'] ++ (['V'] ++
      (text ⟨18446744073709551615, 0, 7, some "rc.1-x"⟩ ++ [' ', '<', '2']))))) =
        " ~>\u2003V18446744073709551615.0.7-rc.1-x <2" := by
    decide +kernel
  rw [← printed]
  exact parse_reads.2 _ [' '] ['~', '>'] ['\u2003'] ['V'] [' ', '<', '2'] printable preface ends

end Scaffold.Version
