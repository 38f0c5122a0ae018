import Mathlib.Data.List.Basic

/-!
Regular expressions that are matched by backtracking. All ways to match the start of a text are listed
in the order in which they are tried; what a search finds is the first of them.
-/

namespace Scaffold.Text

inductive Regex where
  | empty
  | char (p : Char → Bool)
  | star (p : Char → Bool)
  | seq (first second : Regex)
  | alt (first second : Regex)
  | group (index : Nat) (inner : Regex)

namespace Regex

def plus (p : Char → Bool) : Regex :=
  (char p).seq (star p)

def optional (e : Regex) : Regex :=
  e.alt empty

def literal (cs : List Char) : Regex :=
  cs.foldr (fun c e => (char (· == c)).seq e) empty

/-- The first of some words that stands there. -/
def anyOf (words : List (List Char)) : Regex :=
  words.foldr (fun word e => (literal word).alt e) (char fun _ => false)

/-- One way to match: the text that is taken, the groups within it, and what follows. -/
structure Match where
  text : List Char
  groups : List (Nat × List Char)
  rest : List Char
  deriving DecidableEq

/-- A match and one of what follows it. -/
def Match.andThen (m next : Match) : Match :=
  ⟨m.text ++ next.text, m.groups ++ next.groups, next.rest⟩

/-- The runs of a class, the longest first. -/
def repeats (p : Char → Bool) : List Char → List Match
  | [] => [⟨[], [], []⟩]
  | c :: cs =>
      (if p c then (repeats p cs).map fun m => { m with text := c :: m.text } else []) ++
        [⟨[], [], c :: cs⟩]

/-- The ways to match the start of a text, in the order in which they are tried. -/
def ways : Regex → List Char → List Match
  | empty, cs => [⟨[], [], cs⟩]
  | char _, [] => []
  | char p, c :: cs => if p c then [⟨[c], [], cs⟩] else []
  | star p, cs => repeats p cs
  | seq first second, cs =>
      (first.ways cs).flatMap fun m => (second.ways m.rest).map m.andThen
  | alt first second, cs => first.ways cs ++ second.ways cs
  | group index inner, cs =>
      (inner.ways cs).map fun m => { m with groups := (index, m.text) :: m.groups }

def find? (e : Regex) (cs : List Char) : Option Match :=
  (e.ways cs).head?

variable {e first second : Regex} {p : Char → Bool} {c : Char} {cs : List Char} {m next : Match}

@[simp] theorem repeats_nil : repeats p [] = [⟨[], [], []⟩] :=
  rfl

@[simp] theorem repeats_cons : repeats p (c :: cs) =
    (if p c then (repeats p cs).map fun m => { m with text := c :: m.text } else []) ++
      [⟨[], [], c :: cs⟩] :=
  rfl

@[simp] theorem ways_empty : empty.ways cs = [⟨[], [], cs⟩] :=
  rfl

@[simp] theorem ways_char_nil : (char p).ways [] = [] :=
  rfl

@[simp] theorem ways_char_cons : (char p).ways (c :: cs) = if p c then [⟨[c], [], cs⟩] else [] :=
  rfl

@[simp] theorem ways_star : (star p).ways cs = repeats p cs := by
  cases cs <;> rfl

@[simp] theorem ways_seq : (first.seq second).ways cs =
    (first.ways cs).flatMap fun m => (second.ways m.rest).map m.andThen := by
  cases cs <;> rfl

@[simp] theorem ways_alt : (first.alt second).ways cs = first.ways cs ++ second.ways cs := by
  cases cs <;> rfl

@[simp] theorem ways_group (index : Nat) : (group index e).ways cs =
    (e.ways cs).map fun m => { m with groups := (index, m.text) :: m.groups } := by
  cases cs <;> rfl

/-! What matches consist of. -/

theorem mem_seq : m ∈ (first.seq second).ways cs ↔
    ∃ a ∈ first.ways cs, ∃ b ∈ second.ways a.rest, a.andThen b = m := by
  simp only [ways_seq, List.mem_flatMap, List.mem_map]

theorem mem_optional : m ∈ e.optional.ways cs ↔ m ∈ e.ways cs ∨ m = ⟨[], [], cs⟩ := by
  have unfolded : e.optional = e.alt empty := rfl
  rw [unfolded, ways_alt, ways_empty, List.mem_append, List.mem_singleton]

theorem mem_repeats (member : m ∈ repeats p cs) : m.text ++ m.rest = cs ∧ ∀ c ∈ m.text, p c := by
  induction cs generalizing m with
  | nil =>
      rw [repeats_nil] at member
      cases List.mem_singleton.1 member
      exact ⟨rfl, List.forall_mem_nil _⟩
  | cons c cs ih =>
      rw [repeats_cons] at member
      rcases List.mem_append.1 member with longer | none
      · split at longer
        · next here =>
          obtain ⟨shorter, inner, rfl⟩ := List.mem_map.1 longer
          obtain ⟨split, all⟩ := ih inner
          exact ⟨congrArg (c :: ·) split, List.forall_mem_cons.2 ⟨here, all⟩⟩
        · cases longer
      · cases List.mem_singleton.1 none
        exact ⟨rfl, List.forall_mem_nil _⟩

theorem all_of_mem_star (member : m ∈ (star p).ways cs) : ∀ c ∈ m.text, p c := by
  rw [ways_star] at member
  exact (mem_repeats member).2

theorem mem_char (member : m ∈ (char p).ways cs) : ∃ c, p c ∧ cs = c :: m.rest ∧ m.text = [c] := by
  cases cs with
  | nil =>
      rw [ways_char_nil] at member
      cases member
  | cons c cs =>
      rw [ways_char_cons] at member
      split at member
      · next here =>
        cases List.mem_singleton.1 member
        exact ⟨c, here, rfl, rfl⟩
      · cases member

theorem text_append_rest (member : m ∈ e.ways cs) : m.text ++ m.rest = cs := by
  induction e generalizing cs m with
  | empty =>
      rw [ways_empty] at member
      cases List.mem_singleton.1 member
      rfl
  | char p =>
      obtain ⟨c, -, rfl, text⟩ := mem_char member
      rw [text]
      rfl
  | star p =>
      rw [ways_star] at member
      exact (mem_repeats member).1
  | seq first second ihFirst ihSecond =>
      obtain ⟨a, left, b, right, rfl⟩ := mem_seq.1 member
      have inner : b.text ++ b.rest = a.rest := ihSecond right
      calc
        a.text ++ b.text ++ b.rest = a.text ++ a.rest := by rw [List.append_assoc, inner]
        _ = cs := ihFirst left
  | alt first second ihFirst ihSecond =>
      rw [ways_alt] at member
      rcases List.mem_append.1 member with left | right
      · exact ihFirst left
      · exact ihSecond right
  | group index inner ih =>
      rw [ways_group] at member
      obtain ⟨a, taken, rfl⟩ := List.mem_map.1 member
      have split : a.text ++ a.rest = cs := ih taken
      exact split

theorem mem_plus (member : m ∈ (plus p).ways cs) : ∃ c rest, p c ∧ cs = c :: rest := by
  obtain ⟨a, first, -⟩ := mem_seq.1 member
  obtain ⟨c, here, split, -⟩ := mem_char first
  exact ⟨c, a.rest, here, split⟩

theorem ways_literal (word cs : List Char) : (literal word).ways cs =
    if word.isPrefixOf cs then [⟨word, [], cs.drop word.length⟩] else [] := by
  induction word generalizing cs with
  | nil => cases cs <;> rfl
  | cons c word ih =>
      have unfolded : literal (c :: word) = (char (· == c)).seq (literal word) := rfl
      rw [unfolded, ways_seq]
      cases cs with
      | nil => rfl
      | cons d cs =>
          rw [ways_char_cons, List.isPrefixOf_cons_cons]
          by_cases same : d = c
          · subst same
            rw [beq_self_eq_true, if_pos rfl, List.flatMap_singleton, ih, Bool.true_and]
            split <;> rfl
          · rw [beq_eq_false_iff_ne.2 same, beq_eq_false_iff_ne.2 (Ne.symm same)]
            rfl

/-! The match that is found. -/

theorem find?_eq_head? : e.find? cs = (e.ways cs).head? :=
  rfl

theorem mem_of_find? (found : e.find? cs = some m) : m ∈ e.ways cs :=
  List.mem_of_mem_head? found

theorem find?_char_cons : (char p).find? (c :: cs) = if p c then some ⟨[c], [], cs⟩ else none := by
  rw [find?_eq_head?, ways_char_cons]
  split <;> rfl

theorem find?_star (p : Char → Bool) (cs : List Char) :
    (star p).find? cs = some ⟨cs.takeWhile p, [], cs.dropWhile p⟩ := by
  rw [find?_eq_head?, ways_star]
  induction cs with
  | nil => rfl
  | cons c cs ih =>
      rw [repeats_cons, List.takeWhile_cons, List.dropWhile_cons]
      cases p c with
      | true => simp only [if_true, List.head?_append, List.head?_map, ih, Option.map_some, Option.some_or]
      | false => rfl

theorem find?_seq (left : first.find? cs = some m) (right : second.find? m.rest = some next) :
    (first.seq second).find? cs = some (m.andThen next) := by
  obtain ⟨others, left⟩ := List.head?_eq_some_iff.1 left
  obtain ⟨more, right⟩ := List.head?_eq_some_iff.1 right
  rw [find?_eq_head?, ways_seq, left, List.flatMap_cons, right]
  rfl

theorem find?_char_seq_cons : ((char p).seq e).find? (c :: cs) =
    if p c then (e.find? cs).map (Match.andThen ⟨[c], [], cs⟩) else none := by
  rw [find?_eq_head?, find?_eq_head?, ways_seq, ways_char_cons]
  split
  · rw [List.flatMap_singleton, List.head?_map]
  · rfl

theorem find?_alt : (first.alt second).find? cs = (first.find? cs).or (second.find? cs) := by
  rw [find?_eq_head?, ways_alt, List.head?_append]
  rfl

theorem find?_optional : e.optional.find? cs = (e.find? cs).or (some ⟨[], [], cs⟩) :=
  find?_alt

theorem find?_group (index : Nat) : (group index e).find? cs =
    (e.find? cs).map fun m => { m with groups := (index, m.text) :: m.groups } := by
  rw [find?_eq_head?, ways_group, List.head?_map]
  rfl

theorem find?_plus_cons : (plus p).find? (c :: cs) =
    if p c then some ⟨(c :: cs).takeWhile p, [], (c :: cs).dropWhile p⟩ else none := by
  have unfolded : plus p = (char p).seq (star p) := rfl
  rw [unfolded, find?_char_seq_cons, find?_star, List.takeWhile_cons, List.dropWhile_cons]
  cases p c <;> rfl

theorem find?_anyOf (words : List (List Char)) (cs : List Char) :
    (anyOf words).find? cs = (words.find? (·.isPrefixOf cs)).map
      fun word => ⟨word, [], cs.drop word.length⟩ := by
  induction words with
  | nil => cases cs <;> rfl
  | cons word words ih =>
      have unfolded : anyOf (word :: words) = (literal word).alt (anyOf words) := rfl
      rw [unfolded, find?_alt, find?_eq_head?, ways_literal, ih, List.find?_cons]
      cases word.isPrefixOf cs <;> rfl

theorem mem_anyOf {words : List (List Char)} (member : m ∈ (anyOf words).ways cs) :
    m.text ∈ words := by
  induction words with
  | nil =>
      obtain ⟨c, refused, -⟩ := mem_char member
      cases refused
  | cons word words ih =>
      have unfolded : anyOf (word :: words) = (literal word).alt (anyOf words) := rfl
      rw [unfolded, ways_alt] at member
      rcases List.mem_append.1 member with here | later
      · rw [ways_literal] at here
        split at here
        · cases List.mem_singleton.1 here
          exact List.mem_cons_self
        · cases here
      · exact List.mem_cons_of_mem _ (ih later)

end Regex

end Scaffold.Text
