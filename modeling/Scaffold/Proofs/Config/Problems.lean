import Scaffold.Proofs.Config.Entries
import Scaffold.Proofs.Keyed

/-!
What keeps a configuration from being used: each flaw that it has is reported, once and in its turn,
and nothing else is.
-/

namespace Scaffold

/-- The lists of names by which plugins are chosen. -/
inductive Listing where
  | auth | deploy
  deriving DecidableEq

def Listing.key : Listing → String
  | .auth => "auth"
  | .deploy => "deploy"

/-- A flaw of a configuration. The place of an entry is counted from the start of its list. -/
inductive Flaw where
  | noSchema
  | noOutput
  | noStyle
  | blankEntry (list : Listing) (place : Nat)
  | repeatedEntry (list : Listing) (place : Nat) (entry : String)
  | blankAdapter
  | blankDatabase
  deriving DecidableEq

namespace Flaw

def text : Flaw → String
  | .noSchema => "`schema` must not be empty"
  | .noOutput => "`output` must not be empty"
  | .noStyle => "at least one of `api.rest`, `api.graphql` or `api.trpc` must be enabled"
  | .blankEntry list _ => "`" ++ list.key ++ "` contains an empty entry"
  | .repeatedEntry list _ entry => "`" ++ list.key ++ "` lists `" ++ entry ++ "` more than once"
  | .blankAdapter => "`adapter` must not be empty when set"
  | .blankDatabase => "`database` must not be empty when set"

def list? : Flaw → Option Listing
  | .blankEntry list _ | .repeatedEntry list _ _ => some list
  | _ => none

/-- The turn in which a flaw is reported; those of one list come together. -/
def turn : Flaw → Nat
  | .noSchema => 0
  | .noOutput => 1
  | .noStyle => 2
  | .blankEntry .auth _ | .repeatedEntry .auth _ _ => 3
  | .blankEntry .deploy _ | .repeatedEntry .deploy _ _ => 4
  | .blankAdapter => 5
  | .blankDatabase => 6

def place : Flaw → Nat
  | .blankEntry _ place | .repeatedEntry _ place _ => place
  | _ => 0

def Before (f g : Flaw) : Prop :=
  f.turn < g.turn ∨ f.turn = g.turn ∧ f.place < g.place

end Flaw

namespace Config

def entries (c : Config) : Listing → List String
  | .auth => c.auth
  | .deploy => c.deploy

/-- Each kind of flaw, by the one part of the configuration that it lies in. -/
def Has (c : Config) : Flaw → Prop
  | .noSchema => c.schema = ""
  | .noOutput => c.output = ""
  | .noStyle => ∀ style, c.styles.has style = false
  | .blankEntry list place => ∃ entry, (c.entries list)[place]? = some entry ∧ Text.blank entry
  | .repeatedEntry list place entry =>
      (c.entries list)[place]? = some entry ∧ ¬Text.blank entry ∧ entry ∈ (c.entries list).take place
  | .blankAdapter => ∃ name, c.adapter = some name ∧ Text.blank name
  | .blankDatabase => ∃ name, c.database = some name ∧ Text.blank name

structure Usable (c : Config) : Prop where
  schema : c.schema ≠ ""
  output : c.output ≠ ""
  style : ∃ style, c.styles.has style
  filled : ∀ list, ∀ entry ∈ c.entries list, ¬Text.blank entry
  distinct : ∀ list, (c.entries list).Nodup
  adapter : ∀ name, c.adapter = some name → ¬Text.blank name
  database : ∀ name, c.database = some name → ¬Text.blank name

/-! Flaws of a list. -/

section Entries

variable (list : Listing)

/-- The flaw of an entry at a place, if it is blank or stands in front as well. -/
def entryFlaw? (all : List String) (entry : String × Nat) : Option Flaw :=
  if Text.blank entry.1 then some (.blankEntry list entry.2)
  else if entry.1 ∈ all.take entry.2 then some (.repeatedEntry list entry.2 entry.1)
  else none

def entryFlaws (all : List String) : List Flaw :=
  all.zipIdx.filterMap (entryFlaw? list all)

variable {list}

theorem entryFlaw?_eq_some_iff {all : List String} {entry : String} {place : Nat} {f : Flaw} :
    entryFlaw? list all (entry, place) = some f ↔
      f = .blankEntry list place ∧ Text.blank entry ∨
        f = .repeatedEntry list place entry ∧ ¬Text.blank entry ∧ entry ∈ all.take place := by
  unfold entryFlaw?
  by_cases blank : Text.blank entry
  · simp [blank, eq_comm]
  · by_cases known : entry ∈ all.take place <;> simp [blank, known, eq_comm]

theorem list?_of_entryFlaw? {all : List String} {entry : String × Nat} {f : Flaw}
    (found : entryFlaw? list all entry = some f) : f.list? = some list := by
  obtain ⟨entry, place⟩ := entry
  rcases entryFlaw?_eq_some_iff.1 found with ⟨rfl, -⟩ | ⟨rfl, -⟩ <;> rfl

theorem place_of_entryFlaw? {all : List String} {entry : String × Nat} {f : Flaw}
    (found : entryFlaw? list all entry = some f) : f.place = entry.2 := by
  obtain ⟨entry, place⟩ := entry
  rcases entryFlaw?_eq_some_iff.1 found with ⟨rfl, -⟩ | ⟨rfl, -⟩ <;> rfl

theorem list?_of_mem_entryFlaws {all : List String} {f : Flaw} (member : f ∈ entryFlaws list all) :
    f.list? = some list := by
  obtain ⟨entry, -, found⟩ := List.mem_filterMap.1 member
  exact list?_of_entryFlaw? found

theorem places_entryFlaws (all : List String) :
    (entryFlaws list all).Pairwise fun f g => f.place < g.place := by
  have counted : all.zipIdx.Pairwise fun e f => e.2 < f.2 := by
    rw [List.pairwise_iff_getElem]
    intro i j hi hj below
    simpa using below
  refine counted.filterMap _ fun e f below g found h foundLater => ?_
  rw [place_of_entryFlaw? found, place_of_entryFlaw? foundLater]
  exact below

/-- The names that were seen are those in front that are not blank. -/
theorem entryProblems_eq_map {before seen : List String} (entries : List String)
    (same : ∀ entry, ¬Text.blank entry → (entry ∈ seen ↔ entry ∈ before)) :
    entryProblems list.key seen entries =
      ((entries.zipIdx before.length).filterMap
        (entryFlaw? list (before ++ entries))).map Flaw.text := by
  induction entries generalizing before seen with
  | nil => rfl
  | cons entry entries ih =>
      have front : (before ++ entry :: entries).take before.length = before := by simp
      have later {seen : List String}
          (same : ∀ e, ¬Text.blank e → (e ∈ seen ↔ e ∈ before ++ [entry])) :
          entryProblems list.key seen entries =
            ((entries.zipIdx (before.length + 1)).filterMap
              (entryFlaw? list (before ++ entry :: entries))).map Flaw.text := by
        have rest := ih same
        rwa [List.length_append, List.length_singleton, List.append_assoc,
          List.singleton_append] at rest
      rw [entryProblems, List.zipIdx_cons]
      by_cases blank : Text.blank entry
      · have here : entryFlaw? list (before ++ entry :: entries) (entry, before.length) =
            some (.blankEntry list before.length) := if_pos blank
        have kept : ∀ e, ¬Text.blank e → (e ∈ seen ↔ e ∈ before ++ [entry]) := by
          intro e filled
          have other : e ≠ entry := fun equal => filled (equal ▸ blank)
          simp [same e filled, other]
        rw [if_pos blank, List.filterMap_cons_some here, List.map_cons, later kept]
        rfl
      · by_cases known : entry ∈ before
        · have here : entryFlaw? list (before ++ entry :: entries) (entry, before.length) =
              some (.repeatedEntry list before.length entry) := by
            simp [entryFlaw?, blank, front, known]
          have kept : ∀ e, ¬Text.blank e → (e ∈ seen ↔ e ∈ before ++ [entry]) := by
            intro e filled
            rw [same e filled, List.mem_append, List.mem_singleton]
            exact ⟨.inl, fun member => member.elim id fun equal => equal ▸ known⟩
          rw [if_neg blank, if_pos (by simpa using (same entry blank).2 known),
            List.filterMap_cons_some here, List.map_cons, later kept]
          rfl
        · have here : entryFlaw? list (before ++ entry :: entries) (entry, before.length) =
              none := by
            simp [entryFlaw?, blank, front, known]
          have added : ∀ e, ¬Text.blank e → (e ∈ entry :: seen ↔ e ∈ before ++ [entry]) := by
            intro e filled
            rw [List.mem_cons, same e filled, List.mem_append, List.mem_singleton, or_comm]
          rw [if_neg blank, if_neg (by simpa using (same entry blank).not.2 known),
            List.filterMap_cons_none here, later added]

theorem entryProblems_eq_map_entryFlaws (all : List String) :
    entryProblems list.key [] all = (entryFlaws list all).map Flaw.text := by
  have unseen : ∀ e, ¬Text.blank e → (e ∈ [] ↔ e ∈ ([] : List String)) := fun _ _ => .rfl
  exact entryProblems_eq_map all unseen

theorem entryFlaws_concat (all : List String) (entry : String) :
    entryFlaws list (all ++ [entry]) =
      entryFlaws list all ++ (entryFlaw? list all (entry, all.length)).toList := by
  unfold entryFlaws
  rw [List.zipIdx_append, List.filterMap_append]
  congr 1
  · apply List.filterMap_congr
    rintro ⟨e, place⟩ member
    have inside : place < all.length := by
      simpa using (List.mem_zipIdx member).2.1
    unfold entryFlaw?
    rw [List.take_append_of_le_length (Nat.le_of_lt inside)]
  · cases found : entryFlaw? list all (entry, all.length) <;>
      simp_all [entryFlaw?]

/-- All entries are accounted for: an entry without a flaw is the first of its name. -/
theorem length_entryFlaws_add (all : List String) :
    (entryFlaws list all).length + (all.filter (!Text.blank ·)).eraseDups.length =
      all.length := by
  induction all using List.reverseRecOn with
  | nil => rfl
  | append_singleton all entry ih =>
      rw [entryFlaws_concat, List.filter_append, List.length_append, List.length_append,
        List.length_singleton]
      by_cases blank : Text.blank entry
      · have last : entryFlaw? list all (entry, all.length) =
            some (.blankEntry list all.length) := if_pos blank
        have none : [entry].filter (!Text.blank ·) = [] := by simp [blank]
        rw [last, none, List.append_nil, Option.toList_some, List.length_singleton]
        omega
      · have alone : [entry].filter (!Text.blank ·) = [entry] := by simp [blank]
        have counted : entry ∈ (all.filter (!Text.blank ·)).eraseDups ↔ entry ∈ all := by
          simp [List.mem_eraseDups, blank]
        rw [alone, eraseDups_concat, addKey]
        by_cases known : entry ∈ all
        · have last : entryFlaw? list all (entry, all.length) =
              some (.repeatedEntry list all.length entry) := by simp [entryFlaw?, blank, known]
          rw [last, if_pos (counted.2 known), Option.toList_some, List.length_singleton]
          omega
        · have last : entryFlaw? list all (entry, all.length) = none := by
            simp [entryFlaw?, blank, known]
          rw [last, if_neg (counted.not.2 known), Option.toList_none, List.length_nil,
            List.length_append, List.length_singleton]
          omega

theorem length_entryFlaws (all : List String) :
    (entryFlaws list all).length =
      all.countP (Text.blank ·) + all.countP (!Text.blank ·) -
        (all.filter (!Text.blank ·)).eraseDups.length := by
  have total : (entryFlaws list all).length + (all.filter (!Text.blank ·)).eraseDups.length =
      all.length := length_entryFlaws_add all
  have parts : all.length = all.countP (Text.blank ·) + all.countP (!Text.blank ·) := by
    simpa using all.length_eq_countP_add_countP (Text.blank ·)
  omega

end Entries

/-! Flaws of a configuration. -/

variable {c : Config}

def flaws (c : Config) : List Flaw :=
  (if c.schema.isEmpty then [.noSchema] else [])
    ++ (if c.output.isEmpty then [.noOutput] else [])
    ++ (if c.styles.toList.isEmpty then [.noStyle] else [])
    ++ entryFlaws .auth c.auth ++ entryFlaws .deploy c.deploy
    ++ (if c.adapter.any Text.blank then [.blankAdapter] else [])
    ++ (if c.database.any Text.blank then [.blankDatabase] else [])

theorem problems_eq_map_flaws : c.problems = c.flaws.map Flaw.text := by
  have one (p : Prop) [Decidable p] (f : Flaw) :
      (if p then [f] else []).map Flaw.text = if p then [f.text] else [] := by
    split <;> rfl
  simp only [flaws, List.map_append, one, ← entryProblems_eq_map_entryFlaws]
  rfl

theorem styles_isEmpty_iff {styles : Styles} :
    styles.toList.isEmpty ↔ ∀ style, styles.has style = false := by
  rw [List.isEmpty_iff, Styles.toList, List.filter_eq_nil_iff]
  constructor
  · intro none style
    exact Bool.eq_false_iff.2 (none style (by cases style <;> simp [ApiStyle.all]))
  · intro none style _
    exact Bool.eq_false_iff.1 (none style)

theorem mem_entryFlaws_iff {list : Listing} {f : Flaw} :
    f ∈ entryFlaws list (c.entries list) ↔ c.Has f ∧ f.list? = some list := by
  simp only [entryFlaws, List.mem_filterMap, Prod.exists, List.mem_zipIdx_iff_getElem?,
    entryFlaw?_eq_some_iff]
  constructor
  · rintro ⟨entry, place, here, ⟨rfl, blank⟩ | ⟨rfl, filled, known⟩⟩
    · exact ⟨⟨entry, here, blank⟩, rfl⟩
    · exact ⟨⟨here, filled, known⟩, rfl⟩
  · rintro ⟨has, named⟩
    cases f with
    | blankEntry list place =>
        cases named
        obtain ⟨entry, here, blank⟩ := has
        exact ⟨entry, place, here, .inl ⟨rfl, blank⟩⟩
    | repeatedEntry list place entry =>
        cases named
        obtain ⟨here, filled, known⟩ := has
        exact ⟨entry, place, here, .inr ⟨rfl, filled, known⟩⟩
    | noSchema | noOutput | noStyle | blankAdapter | blankDatabase => cases named

theorem mem_flaws_iff {f : Flaw} : f ∈ c.flaws ↔ c.Has f := by
  have auth : f ∈ entryFlaws .auth (c.entries .auth) ↔ c.Has f ∧ f.list? = some .auth :=
    mem_entryFlaws_iff
  have deploy : f ∈ entryFlaws .deploy (c.entries .deploy) ↔ c.Has f ∧ f.list? = some .deploy :=
    mem_entryFlaws_iff
  simp only [entries] at auth deploy
  simp only [flaws, List.mem_append, auth, deploy]
  cases f with
  | noSchema => simp [Flaw.list?, Has, String.isEmpty_iff]
  | noOutput => simp [Flaw.list?, Has, String.isEmpty_iff]
  | noStyle => simp [Flaw.list?, Has, ← styles_isEmpty_iff]
  | blankEntry list place => cases list <;> simp [Flaw.list?]
  | repeatedEntry list place entry => cases list <;> simp [Flaw.list?]
  | blankAdapter => simp [Flaw.list?, Has, Option.any_eq_true]
  | blankDatabase => simp [Flaw.list?, Has, Option.any_eq_true]

/-- Flaws in their order, with turns below a bound. -/
structure Staged (turn : Nat) (flaws : List Flaw) : Prop where
  ordered : flaws.Pairwise Flaw.Before
  below : ∀ f ∈ flaws, f.turn < turn

namespace Staged

variable {turn : Nat} {before after : List Flaw}

theorem append (staged : Staged turn before) (here : ∀ f ∈ after, f.turn = turn)
    (places : after.Pairwise fun f g => f.place < g.place) :
    Staged (turn + 1) (before ++ after) where
  ordered := by
    refine List.pairwise_append.2 ⟨staged.ordered, ?_, fun f first g last => .inl ?_⟩
    · refine places.imp_of_mem fun {f g} first last less => ?_
      exact .inr ⟨(here f first).trans (here g last).symm, less⟩
    · rw [here g last]
      exact staged.below f first
  below := by
    intro f member
    rcases List.mem_append.1 member with first | last
    · exact Nat.lt_succ_of_lt (staged.below f first)
    · exact Nat.lt_succ_of_le (Nat.le_of_eq (here f last))

theorem append_ite (staged : Staged turn before) (p : Prop) [Decidable p] {f : Flaw}
    (here : f.turn = turn) : Staged (turn + 1) (before ++ if p then [f] else []) := by
  refine staged.append (fun g member => ?_) ?_
  · split at member
    · exact List.mem_singleton.1 member ▸ here
    · cases member
  · split
    · exact List.pairwise_singleton _ _
    · exact .nil

theorem append_entryFlaws (staged : Staged turn before) {list : Listing} (all : List String)
    (here : ∀ f : Flaw, f.list? = some list → f.turn = turn) :
    Staged (turn + 1) (before ++ entryFlaws list all) :=
  staged.append (fun f member => here f (list?_of_mem_entryFlaws member)) (places_entryFlaws all)

end Staged

theorem turn_of_list? {f : Flaw} {list : Listing} (named : f.list? = some list) :
    f.turn = match list with
      | .auth => 3
      | .deploy => 4 := by
  cases f <;> cases named <;> cases list <;> rfl

theorem staged_flaws : Staged 7 c.flaws :=
  (((((((Staged.mk .nil nofun : Staged 0 []).append_ite _ rfl).append_ite _ rfl).append_ite _
    rfl).append_entryFlaws c.auth fun _ => turn_of_list?).append_entryFlaws c.deploy
      fun _ => turn_of_list?).append_ite _ rfl).append_ite _ rfl

theorem filter_flaws (list : Listing) :
    c.flaws.filter (·.list? = some list) = entryFlaws list (c.entries list) := by
  have one (p : Prop) [Decidable p] {f : Flaw} (none : f.list? = none) :
      (if p then [f] else []).filter (·.list? = some list) = [] := by
    split <;> simp [none]
  have rest (other : Listing) (all : List String) :
      (entryFlaws other all).filter (·.list? = some list) =
        if other = list then entryFlaws list all else [] := by
    by_cases same : other = list
    · subst same
      rw [if_pos rfl, List.filter_eq_self]
      intro f member
      exact decide_eq_true (list?_of_mem_entryFlaws member)
    · rw [if_neg same, List.filter_eq_nil_iff]
      intro f member
      simp [list?_of_mem_entryFlaws member, same]
  unfold flaws
  simp only [List.filter_append, rest]
  rw [one _ rfl, one _ rfl, one _ rfl, one _ rfl, one _ rfl]
  cases list <;> simp [entries]

theorem blankProblem_eq_nil_iff {key : String} {value : Option String} :
    blankProblem key value = [] ↔ ∀ name, value = some name → ¬Text.blank name := by
  unfold blankProblem
  cases value <;> simp

theorem usable_iff : c.Usable ↔ c.problems = [] := by
  simp only [problems, List.append_eq_nil_iff, ite_eq_right_iff, List.cons_ne_nil, imp_false,
    styles_isEmpty_iff, String.isEmpty_iff, entryProblems_eq_nil_iff, blankProblem_eq_nil_iff,
    not_forall, Bool.not_eq_false]
  constructor
  · rintro ⟨schema, output, style, filled, distinct, adapter, database⟩
    have fine (list : Listing) : (∀ entry ∈ c.entries list, Text.blank entry = false) ∧
        (c.entries list).Nodup ∧ ∀ entry ∈ c.entries list, entry ∉ [] :=
      ⟨fun entry member => Bool.eq_false_iff.2 (filled list entry member), distinct list,
        fun _ _ => List.not_mem_nil⟩
    exact ⟨⟨⟨⟨⟨⟨schema, output⟩, style⟩, fine .auth⟩, fine .deploy⟩, adapter⟩, database⟩
  · rintro ⟨⟨⟨⟨⟨⟨schema, output⟩, style⟩, auth⟩, deploy⟩, adapter⟩, database⟩
    refine ⟨schema, output, style, fun list entry member => Bool.eq_false_iff.1 ?_, fun list => ?_,
      adapter, database⟩
    · cases list with
      | auth => exact auth.1 entry member
      | deploy => exact deploy.1 entry member
    · cases list with
      | auth => exact auth.2.1
      | deploy => exact deploy.2.1

theorem usable_of_validate (valid : c.validate = .ok c) : c.Usable :=
  usable_iff.2 (problems_of_validate valid)

/-- A configuration is accepted exactly if its schema and output are named, some style is enabled, the
entries of each list are filled and distinct, and adapter and database are filled where they are set.
Else every flaw that it has is reported, each once and in its turn, those of a list by their places,
and nothing else. A list has as many flaws as it has blank entries, and filled ones beyond the
distinct ones. -/
theorem validate_exact (c : Config) :
    ∃ flaws : List Flaw,
      flaws.Pairwise Flaw.Before ∧ (∀ f, f ∈ flaws ↔ c.Has f) ∧
      (c.Usable ∧ flaws = [] ∧ c.validate = .ok c ∨
        ¬c.Usable ∧ flaws ≠ [] ∧ c.validate = .error (.invalid (flaws.map Flaw.text))) ∧
      ∀ list, (flaws.filter (·.list? = some list)).length =
        (c.entries list).countP (Text.blank ·) + (c.entries list).countP (!Text.blank ·) -
          ((c.entries list).filter (!Text.blank ·)).eraseDups.length := by
  refine ⟨c.flaws, staged_flaws.ordered, fun _ => mem_flaws_iff, ?_, fun list => ?_⟩
  · rw [usable_iff, validate, problems_eq_map_flaws, List.map_eq_nil_iff]
    by_cases none : c.flaws = []
    · exact .inl ⟨none, none, by simp [none]⟩
    · exact .inr ⟨none, none, by simp [none]⟩
  · rw [filter_flaws, length_entryFlaws]

example :
    { Config.new "" with auth := ["jwt", " ", "jwt"], database := some "" }.problems =
      ["`schema` must not be empty", "`auth` contains an empty entry",
        "`auth` lists `jwt` more than once", "`database` must not be empty when set"] := by
  decide

end Config

end Scaffold
