import Scaffold.Proofs.Text.Scanning
import Scaffold.Proofs.Version.Numbers

/-!
The grammar of versions, read greedily from the start of a text: in which runs it takes the text apart,
and what the runs say.
-/

namespace Scaffold.Version

open Text
open Text.Language

def isMark (c : Char) : Bool :=
  c == 'v' || c == 'V'

/-- What may stand for a minor or patch number. -/
def Numeral : Language :=
  Either (Many isDecimalDigit) (One isWildcard)

def preface : List Language :=
  [RunOf isBlank, Optional (· ∈ operators), RunOf isBlank, Optional (One isMark)]

/-- The numbers and the tag. The first row of digits may be empty here, as there is a way to read any
text; whether it is tells versions from other texts. -/
def body : List Language :=
  [RunOf isDecimalDigit, Optional (After '.' Numeral), Optional (After '.' Numeral),
    Optional (After '-' (Many isTagChar))]

/-- A text in the parts that the grammar takes it apart into. -/
structure Reading where
  lead : List Char
  operator : List Char
  gap : List Char
  mark : List Char
  major : List Char
  minor : List Char
  patch : List Char
  tag : List Char
  rest : List Char
  deriving DecidableEq

namespace Reading

def runs (r : Reading) : List (List Char) :=
  [r.lead, r.operator, r.gap, r.mark] ++ [r.major, r.minor, r.patch, r.tag]

/-- Each part is the longest one that the grammar allows where it starts. -/
def Reads (r : Reading) (cs : List Char) : Prop :=
  Scans (preface ++ body) cs r.runs r.rest

theorem Reads.unique {r other : Reading} {cs : List Char} (reads : r.Reads cs)
    (reads' : other.Reads cs) : r = other := by
  obtain ⟨runs, rest⟩ := Scans.unique reads reads'
  cases r
  cases other
  cases runs
  cases rest
  rfl

end Reading

/-! What the runs say. -/

/-- The digits of a minor or patch number; none if it is absent or a wildcard. -/
def numeral : List Char → List Char
  | [] => []
  | _ :: run => if run.any isWildcard then [] else run

def component : List Char → Option Component
  | [] => none
  | _ :: run => some (if run.any isWildcard then .wildcard else .digits run)

def tagOf : List Char → Option String
  | [] => none
  | _ :: run => some (String.ofList run)

namespace Reading

def parts (r : Reading) : Parts :=
  ⟨r.major, component r.minor, component r.patch, tagOf r.tag⟩

/-- The rows of digits, in the order in which they are read as numbers. -/
def numerals (r : Reading) : List (List Char) :=
  [r.major, numeral r.minor, numeral r.patch]

def version (r : Reading) : Version :=
  ⟨digitsToNat r.major, digitsToNat (numeral r.minor), digitsToNat (numeral r.patch), tagOf r.tag⟩

end Reading

/-! Classes of characters. -/

theorem not_of_mem_operators {p : Char → Bool} (apart : operators.all (·.all (!p ·)))
    {word : List Char} (known : word ∈ operators) {c : Char} (member : c ∈ word) : ¬p c := by
  have all := List.all_eq_true.1 (List.all_eq_true.1 apart word known) c member
  simpa using all

theorem not_isBlank_of_isMark {c : Char} (mark : isMark c) : ¬isBlank c := by
  simp only [isMark, Bool.or_eq_true, beq_iff_eq] at mark
  rcases mark with rfl | rfl <;> decide

theorem not_isDecimalDigit_of_isMark {c : Char} (mark : isMark c) : ¬isDecimalDigit c := by
  simp only [isMark, Bool.or_eq_true, beq_iff_eq] at mark
  rcases mark with rfl | rfl <;> decide

theorem not_isDecimalDigit_of_isWildcard {c : Char} (wildcard : isWildcard c) :
    ¬isDecimalDigit c := by
  simp only [isWildcard, Bool.or_eq_true, beq_iff_eq] at wildcard
  rcases wildcard with (rfl | rfl) | rfl <;> decide

theorem not_isDecimalDigit_of_isBlank {c : Char} (blank : isBlank c) : ¬isDecimalDigit c := by
  have apart : ∀ n ∈ [0x9, 0xa, 0xb, 0xc, 0xd, 0x20, 0x85, 0xa0, 0x1680, 0x2000, 0x2001, 0x2002,
      0x2003, 0x2004, 0x2005, 0x2006, 0x2007, 0x2008, 0x2009, 0x200a, 0x2028, 0x2029, 0x202f, 0x205f,
      0x3000], ¬digitZeros.any fun first => first ≤ n && n < first + 10 := by
    decide
  apply apart
  simp only [isBlank, Bool.or_eq_true, Bool.and_eq_true, beq_iff_eq, decide_eq_true_eq] at blank
  simp only [List.mem_cons, List.not_mem_nil, or_false]
  omega

/-! The reader takes the longest runs. -/

theorem operators_ordered : operators.Pairwise fun a b => ¬a.isPrefixOf b := by
  decide

theorem longest_dropOperator (cs : List Char) :
    ∃ operator, Longest (Optional (· ∈ operators)) cs operator (dropOperator cs) := by
  rw [dropOperator]
  split
  · next operator found =>
    exact ⟨operator, (longest_find? operators_ordered found).optional⟩
  · next none =>
    refine ⟨[], longest_nil ?_⟩
    intro run starts member
    rw [List.find?_eq_none] at none
    exact none run member (List.isPrefixOf_iff_prefix.2 starts)

theorem longest_dropV (cs : List Char) :
    ∃ mark, Longest (Optional (One isMark)) cs mark (dropV cs) := by
  rw [dropV.eq_def]
  split
  · exact ⟨_, (longest_one rfl _).optional⟩
  · exact ⟨_, (longest_one rfl _).optional⟩
  · next small capital =>
    refine ⟨[], longest_nil (absent_one ?_)⟩
    rintro c first mark
    obtain ⟨cs, rfl⟩ := List.head?_eq_some_iff.1 first
    simp only [isMark, Bool.or_eq_true, beq_iff_eq] at mark
    rcases mark with rfl | rfl
    · exact small cs rfl
    · exact capital cs rfl

theorem absent_wildcard {cs run rest : List Char}
    (longest : Longest (Many isDecimalDigit) cs run rest) : Absent (One isWildcard) cs := by
  apply absent_one
  intro c first wildcard
  obtain ⟨some, digits⟩ := longest.belongs
  obtain ⟨d, more, rfl⟩ := List.exists_cons_of_ne_nil some
  rw [← longest.split] at first
  cases first
  exact not_isDecimalDigit_of_isWildcard wildcard (digits _ List.mem_cons_self)

theorem any_isWildcard_digits {digits : List Char} (all : ∀ c ∈ digits, isDecimalDigit c) :
    digits.any isWildcard = false := by
  rw [List.any_eq_false]
  intro c member wildcard
  exact not_isDecimalDigit_of_isWildcard wildcard (all c member)

theorem component_digits {mark : Char} {digits : List Char} (all : ∀ c ∈ digits, isDecimalDigit c) :
    component (mark :: digits) = some (.digits digits) := by
  rw [component, any_isWildcard_digits all]
  rfl

theorem component_wildcard {mark c : Char} (wildcard : isWildcard c) :
    component [mark, c] = some .wildcard := by
  simp [component, wildcard]

theorem longest_component? (cs : List Char) :
    ∃ run, Longest (Optional (After '.' Numeral)) cs run (component? cs).2 ∧
      (component? cs).1 = component run := by
  rw [component?.eq_def]
  split
  · next c cs =>
    split
    · next digit =>
      have longest := longest_takeWhile_cons digit cs
      refine ⟨_, ((longest.left (absent_wildcard longest)).after '.').optional, ?_⟩
      rw [component_digits longest.belongs.2]
    · next other =>
      have undigited : Absent (Many isDecimalDigit) (c :: cs) := absent_many (by simpa using other)
      split
      · next wildcard =>
        refine ⟨['.', c], (((longest_one wildcard cs).right undigited).after '.').optional, ?_⟩
        rw [component_wildcard wildcard]
      · next neither =>
        refine ⟨[], longest_nil (absent_after ?_), rfl⟩
        rintro later ⟨⟩
        exact absent_either undigited (absent_one (by simpa using neither))
  · next other =>
    refine ⟨[], longest_nil (absent_after ?_), rfl⟩
    rintro (_ | ⟨c, later⟩) rfl
    · exact absent_either (absent_many (by simp)) (absent_one (by simp))
    · exact absurd rfl (other c later)

theorem longest_prerelease? (cs : List Char) :
    ∃ run rest, Longest (Optional (After '-' (Many isTagChar))) cs run rest ∧
      prerelease? cs = tagOf run := by
  rw [prerelease?.eq_def]
  split
  · next cs =>
    have longest := longest_takeWhile isTagChar cs
    by_cases none : cs.takeWhile isTagChar = []
    · rw [none] at longest ⊢
      refine ⟨[], _, longest_nil (absent_after ?_), rfl⟩
      rintro later ⟨⟩
      exact longest.absent_many
    · exact ⟨_, _, ((longest.many none).after '-').optional, if_neg (by simpa using none)⟩
  · next other =>
    refine ⟨[], cs, longest_nil (absent_after ?_), rfl⟩
    rintro later rfl
    exact absurd rfl (other later)

theorem exists_scans_preface (cs : List Char) : ∃ lead operator gap mark,
    Scans preface cs [lead, operator, gap, mark]
      (dropV ((dropOperator (cs.dropWhile isBlank)).dropWhile isBlank)) := by
  have lead := longest_takeWhile isBlank cs
  obtain ⟨operator, ranged⟩ := longest_dropOperator (cs.dropWhile isBlank)
  have gap := longest_takeWhile isBlank (dropOperator (cs.dropWhile isBlank))
  obtain ⟨mark, marked⟩ := longest_dropV ((dropOperator (cs.dropWhile isBlank)).dropWhile isBlank)
  exact ⟨_, operator, _, mark, .cons lead (.cons ranged (.cons gap (.cons marked (.nil _))))⟩

theorem exists_scans_body (cs : List Char) : ∃ minor patch tag rest,
    Scans body cs [cs.takeWhile isDecimalDigit, minor, patch, tag] rest ∧
      (component? (cs.dropWhile isDecimalDigit)).1 = component minor ∧
      (component? (component? (cs.dropWhile isDecimalDigit)).2).1 = component patch ∧
      prerelease? (component? (component? (cs.dropWhile isDecimalDigit)).2).2 = tagOf tag := by
  have major := longest_takeWhile isDecimalDigit cs
  obtain ⟨minor, second, minorSays⟩ := longest_component? (cs.dropWhile isDecimalDigit)
  obtain ⟨patch, third, patchSays⟩ :=
    longest_component? (component? (cs.dropWhile isDecimalDigit)).2
  obtain ⟨tag, rest, tagged, tagSays⟩ :=
    longest_prerelease? (component? (component? (cs.dropWhile isDecimalDigit)).2).2
  exact ⟨minor, patch, tag, rest,
    .cons major (.cons second (.cons third (.cons tagged (.nil rest)))),
    minorSays, patchSays, tagSays⟩

/-- Every text can be read, and the reader finds what is read there. -/
theorem exists_reads (cs : List Char) : ∃ r : Reading, r.Reads cs ∧
    parts? cs = if r.major = [] then none else some r.parts := by
  obtain ⟨lead, operator, gap, mark, before⟩ := exists_scans_preface cs
  obtain ⟨minor, patch, tag, rest, after, minorSays, patchSays, tagSays⟩ :=
    exists_scans_body (dropV ((dropOperator (cs.dropWhile isBlank)).dropWhile isBlank))
  refine ⟨⟨lead, operator, gap, mark, _, minor, patch, tag, rest⟩, before.append after, ?_⟩
  simp only [parts?, List.isEmpty_iff, Reading.parts, minorSays, patchSays, tagSays]

/-! Texts in which a number stands behind a preface. -/

/-- Blanks, an operator, blanks and a mark; any of them may be missing. -/
structure IsPreface (lead operator gap mark : List Char) : Prop where
  lead : RunOf isBlank lead
  operator : Optional (· ∈ operators) operator
  gap : RunOf isBlank gap
  mark : Optional (One isMark) mark

theorem head?_append {P : Char → Prop} {front rest : List Char} (all : ∀ c ∈ front, P c)
    (stops : ∀ c ∈ rest.head?, P c) : ∀ c ∈ (front ++ rest).head?, P c := by
  cases front with
  | nil => exact stops
  | cons d front =>
      rintro c ⟨⟩
      exact all d List.mem_cons_self

theorem isMark_of_mem {mark : List Char} (marked : Optional (One isMark) mark) :
    ∀ c ∈ mark, isMark c := by
  rcases marked with rfl | ⟨v, rfl, here⟩
  · exact List.forall_mem_nil _
  · exact List.forall_mem_singleton.2 here

/-- What may follow an operator is not part of one. -/
theorem longest_operator {operator rest : List Char} (known : Optional (· ∈ operators) operator)
    (stops : ∀ c ∈ rest.head?, isBlank c ∨ isMark c ∨ isDecimalDigit c) :
    Longest (Optional (· ∈ operators)) (operator ++ rest) operator rest := by
  apply longest_of_stops known
  rintro c first other (rfl | known) inside
  · cases inside
  · rcases stops c first with blank | mark | digit
    · exact not_of_mem_operators (by decide) known inside blank
    · exact not_of_mem_operators (by decide) known inside mark
    · exact not_of_mem_operators (by decide) known inside digit

theorem longest_mark {mark rest : List Char} (marked : Optional (One isMark) mark)
    (stops : ∀ c ∈ rest.head?, isDecimalDigit c) :
    Longest (Optional (One isMark)) (mark ++ rest) mark rest := by
  apply longest_of_stops marked
  intro c first other another inside
  exact not_isDecimalDigit_of_isMark (isMark_of_mem another c inside) (stops c first)

section Preface

variable {lead operator gap mark : List Char}

/-- Before a number, a preface is read as it is written; but if it has no operator, the blanks on both
sides are read at once. -/
theorem IsPreface.scans (preface : IsPreface lead operator gap mark) {cs : List Char}
    (number : ∀ c ∈ cs.head?, isDecimalDigit c) : ∃ lead' operator' gap',
      Scans Version.preface (lead ++ (operator ++ (gap ++ (mark ++ cs))))
        [lead', operator', gap', mark] cs := by
  have notBlank : ∀ c ∈ (mark ++ cs).head?, ¬isBlank c := by
    apply head?_append
    · exact fun c member => not_isBlank_of_isMark (isMark_of_mem preface.mark c member)
    · exact fun c first blank => not_isDecimalDigit_of_isBlank blank (number c first)
  have apart : ∀ c ∈ (mark ++ cs).head?, isBlank c ∨ isMark c ∨ isDecimalDigit c := by
    apply head?_append
    · exact fun c member => .inr (.inl (isMark_of_mem preface.mark c member))
    · exact fun c first => .inr (.inr (number c first))
  have marked := longest_mark preface.mark number
  by_cases none : operator = []
  · -- Nothing parts the gap from the lead, so the first run of blanks takes both.
    subst none
    have all : RunOf isBlank (lead ++ gap) := List.forall_mem_append.2 ⟨preface.lead, preface.gap⟩
    refine ⟨lead ++ gap, [], [], ?_⟩
    rw [List.nil_append, ← List.append_assoc]
    exact .cons (longest_runOf all notBlank) (.cons (longest_operator preface.operator apart)
      (.cons (longest_runOf (List.forall_mem_nil _) notBlank) (.cons marked (.nil cs))))
  · have member : operator ∈ operators := preface.operator.resolve_left none
    obtain ⟨c, more, rfl⟩ := List.exists_cons_of_ne_nil none
    have stops : ∀ d ∈ (c :: more ++ (gap ++ (mark ++ cs))).head?, ¬isBlank d := by
      rintro d ⟨⟩
      exact not_of_mem_operators (by decide) member List.mem_cons_self
    have followed : ∀ d ∈ (gap ++ (mark ++ cs)).head?, isBlank d ∨ isMark d ∨ isDecimalDigit d :=
      head?_append (fun d blank => .inl (preface.gap d blank)) apart
    exact ⟨lead, c :: more, gap, .cons (longest_runOf preface.lead stops)
      (.cons (longest_operator preface.operator followed)
        (.cons (longest_runOf preface.gap notBlank) (.cons marked (.nil cs))))⟩

/-- A number behind a preface is found, wherever it was looked for. -/
theorem IsPreface.major_ne_nil (preface : IsPreface lead operator gap mark) {r : Reading} {c : Char}
    {cs : List Char} (digit : isDecimalDigit c)
    (reads : r.Reads (lead ++ (operator ++ (gap ++ (mark ++ c :: cs))))) : r.major ≠ [] := by
  have number : ∀ d ∈ (c :: cs).head?, isDecimalDigit d := by
    rintro d ⟨⟩
    exact digit
  obtain ⟨_, _, _, prefaced⟩ := preface.scans number
  obtain ⟨middle, before, after⟩ := reads.split rfl
  obtain ⟨-, rfl⟩ := before.unique prefaced
  cases after with
  | cons major =>
      rw [(major.unique (longest_takeWhile isDecimalDigit (c :: cs))).1]
      simp [digit]

end Preface

end Scaffold.Version
