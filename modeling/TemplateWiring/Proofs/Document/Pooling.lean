import Mathlib.Data.List.Forall2
import TemplateWiring.Proofs.Document

namespace TemplateWiring.Document

variable {constants : List Constant} {name : String}

/-- What a pool gives out for a name: the name itself where no constant has it, and otherwise the name
with the least number from 1 on that makes it free. -/
inductive Fresh (constants : List Constant) (name : String) : String → Prop
  | own (free : ∀ c ∈ constants, c.name ≠ name) : Fresh constants name name
  | numbered (k : Nat) (positive : 1 ≤ k) (taken : ∃ c ∈ constants, c.name = name)
      (free : ∀ c ∈ constants, c.name ≠ Document.numbered name k)
      (least : ∀ i, 1 ≤ i → i < k → ∃ c ∈ constants, c.name = Document.numbered name i) :
      Fresh constants name (Document.numbered name k)

theorem not_pooled_iff : pooled constants name = false ↔ ∀ c ∈ constants, c.name ≠ name := by
  simp [pooled]

theorem fresh_freshName (constants : List Constant) (name : String) :
    Fresh constants name (freshName constants name) := by
  rcases freshName_cases constants name with ⟨free, same⟩ | ⟨taken, k, positive, same, free, least⟩
  · rw [same]
    exact .own (not_pooled_iff.mp free)
  · rw [same]
    exact .numbered k positive (pooled_iff.mp taken) (not_pooled_iff.mp free)
      fun i first below => pooled_iff.mp (least i first below)

section search

def candidate (name : String) : Nat → String
  | 0 => name
  | k + 1 => numbered name (k + 1)

/-- As `candidate`, with numbers from a counter of 32 bits that runs over into negative ones. -/
def candidate32 (name : String) : Nat → String
  | 0 => name
  | k + 1 => name ++ "_" ++ toString (Int32.ofNat (k + 1)).toInt

/-- The search for a free name, one candidate after another. There is no answer where it needs more
turns than it gets. -/
def search (constants : List Constant) (candidates : Nat → String) :
    (turns : Nat) → (k : Nat) → Option String
  | 0, _ => none
  | turns + 1, k =>
    if pooled constants (candidates k) then search constants candidates turns (k + 1)
    else some (candidates k)

theorem search_eq {candidates : Nat → String} {turns start k : Nat} (first : start ≤ k)
    (taken : ∀ i, start ≤ i → i < k → pooled constants (candidates i) = true)
    (free : pooled constants (candidates k) = false) (last : k < start + turns) :
    search constants candidates turns start = some (candidates k) := by
  induction turns generalizing start with
  | zero => omega
  | succ turns ih =>
      rw [search]
      by_cases here : start = k
      · rw [here, free, if_neg Bool.false_ne_true]
      · rw [taken start (Nat.le_refl _) (by omega), if_pos rfl]
        exact ih (by omega) (fun i more => taken i (by omega)) (by omega)

theorem candidate_injective (name : String) : Function.Injective (candidate name) := by
  have longer (k : Nat) : name ≠ numbered name k := by
    intro same
    have length := congrArg String.length same
    have mark : "_".length = 1 := rfl
    rw [numbered, String.length_append, String.length_append] at length
    omega
  intro i k same
  cases i with
  | zero =>
      cases k with
      | zero => rfl
      | succ k => exact absurd same (longer (k + 1))
  | succ i =>
      cases k with
      | zero => exact absurd same.symm (longer (i + 1))
      | succ k => exact numbered_injective name same

theorem freshName_candidate (constants : List Constant) (name : String) :
    ∃ k, freshName constants name = candidate name k ∧
      pooled constants (candidate name k) = false ∧
      ∀ i < k, pooled constants (candidate name i) = true := by
  rcases freshName_cases constants name with ⟨free, same⟩ | ⟨asked, k, first, same, free, least⟩
  · exact ⟨0, same, free, by simp⟩
  · obtain ⟨k, rfl⟩ := Nat.exists_eq_add_of_le' first
    refine ⟨k + 1, same, free, fun i below => ?_⟩
    cases i with
    | zero => exact asked
    | succ i => exact least (i + 1) (by omega) below

theorem le_of_taken {k : Nat} (taken : ∀ i < k, pooled constants (candidate name i) = true) :
    k ≤ constants.length := by
  have distinct : ((List.range k).map (candidate name)).Nodup :=
    List.nodup_range.map (candidate_injective name)
  have inside : ∀ tried ∈ (List.range k).map (candidate name), pooled constants tried = true := by
    simpa using taken
  have fewer := length_le_of_pooled distinct inside
  rwa [List.length_map, List.length_range] at fewer

theorem candidate32_eq (name : String) {k : Nat} (small : k ≤ 2147483647) :
    candidate32 name k = candidate name k := by
  cases k with
  | zero => rfl
  | succ k =>
      rw [candidate32, Int32.toInt_ofNat_of_lt (by omega)]
      rfl

theorem search_candidate (constants : List Constant) (name : String) {turns : Nat}
    (granted : constants.length < turns) :
    search constants (candidate name) turns 0 = some (freshName constants name) := by
  obtain ⟨k, same, free, taken⟩ := freshName_candidate constants name
  have few := le_of_taken taken
  rw [same]
  exact search_eq (Nat.zero_le k) (fun i _ => taken i) free (by omega)

/-- No counter of 32 bits runs over before there are that many constants. -/
theorem search_candidate32 (constants : List Constant) (name : String) {turns : Nat}
    (granted : constants.length < turns) (room : constants.length ≤ 2147483647) :
    search constants (candidate32 name) turns 0 = some (freshName constants name) := by
  obtain ⟨k, same, free, taken⟩ := freshName_candidate constants name
  have few := le_of_taken taken
  have narrow (i : Nat) (below : i ≤ k) : candidate32 name i = candidate name i :=
    candidate32_eq name (by omega)
  rw [same, ← narrow k (Nat.le_refl k)]
  apply search_eq (Nat.zero_le k)
  · intro i _ below
    rw [narrow i (by omega)]
    exact taken i below
  · rwa [narrow k (Nat.le_refl k)]
  · omega

end search

def addConstants (d : Document) : List Constant → Document × List String
  | [] => (d, [])
  | asked :: rest =>
    let (next, given) := d.addConstant asked.name asked.source
    let (after, others) := next.addConstants rest
    (after, given :: others)

def Apart (constants : List Constant) : Prop := (constants.map (·.name)).Nodup

/-- The name stands for the source and for nothing else. -/
def Denotes (constants : List Constant) (name source : String) : Prop :=
  ∀ c, c ∈ constants ∧ c.name = name ↔ c = ⟨name, source⟩

variable {d : Document}

theorem apart_addConstant (apart : Apart d.constants) (name source : String) :
    Apart (d.addConstant name source).1.constants := by
  have new : freshName d.constants name ∉ d.constants.map (·.name) := by
    rw [List.mem_map]
    rintro ⟨c, member, same⟩
    exact not_pooled_iff.mp (pooled_freshName d.constants name) c member same
  rw [addConstant, Apart, List.map_append, List.map_singleton, ← List.concat_eq_append]
  exact apart.concat new

theorem apart_addConstants (apart : Apart d.constants) (requests : List Constant) :
    Apart (d.addConstants requests).1.constants := by
  induction requests generalizing d with
  | nil => exact apart
  | cons asked rest ih => exact ih (apart_addConstant apart asked.name asked.source)

theorem prefix_addConstants (d : Document) (requests : List Constant) :
    d.constants <+: (d.addConstants requests).1.constants := by
  induction requests generalizing d with
  | nil => exact List.prefix_refl _
  | cons asked rest ih =>
      have next : d.constants <+: (d.addConstant asked.name asked.source).1.constants :=
        List.prefix_append _ _
      exact next.trans (ih _)

theorem given_addConstants (d : Document) (requests : List Constant) :
    List.Forall₂ (fun name asked => ⟨name, asked.source⟩ ∈ (d.addConstants requests).1.constants)
      (d.addConstants requests).2 requests := by
  induction requests generalizing d with
  | nil => exact .nil
  | cons asked rest ih =>
      refine .cons ?_ (ih (d.addConstant asked.name asked.source).1)
      apply (prefix_addConstants (d.addConstant asked.name asked.source).1 rest).subset
      exact List.mem_append_right _ (List.mem_singleton_self _)

theorem denotes_of_mem {source : String} (apart : Apart constants)
    (member : ⟨name, source⟩ ∈ constants) : Denotes constants name source := by
  intro c
  constructor
  · rintro ⟨listed, same⟩
    exact List.inj_on_of_nodup_map apart listed member same
  · rintro rfl
    exact ⟨member, rfl⟩

/-- However constants are pooled, each gets a name of its own, which stands for its source from then on.
The next one gets the name that is asked for where that is free, and else the least number that makes it
free. To find it takes one turn more than there are constants at most, and a counter of 32 bits will do
as long as there are not as many constants as it can count. -/
theorem constants_kept_apart (d : Document) (unpooled : d.constants = [])
    (requests : List Constant) :
    ∃ reached given, d.addConstants requests = (reached, given) ∧
      (reached.constants.map (·.name)).Nodup ∧
      List.Forall₂ (fun name asked => Denotes reached.constants name asked.source) given requests ∧
      ∀ name source, ∃ fresh,
        reached.addConstant name source =
          ({ reached with constants := reached.constants ++ [⟨fresh, source⟩] }, fresh) ∧
        Fresh reached.constants name fresh ∧
        ∀ turns, reached.constants.length < turns →
          search reached.constants (candidate name) turns 0 = some fresh ∧
          (reached.constants.length ≤ 2147483647 →
            search reached.constants (candidate32 name) turns 0 = some fresh) := by
  have apart : Apart (d.addConstants requests).1.constants := by
    apply apart_addConstants
    rw [unpooled]
    exact List.nodup_nil
  refine ⟨_, _, rfl, apart, ?_, ?_⟩
  · exact (given_addConstants d requests).imp fun name asked => denotes_of_mem apart
  · intro name source
    refine ⟨_, rfl, fresh_freshName _ name, fun turns granted => ⟨?_, fun room => ?_⟩⟩
    · exact search_candidate _ name granted
    · exact search_candidate32 _ name granted room

def numberedRequests : List Constant := [⟨"a_1", "0"⟩, ⟨"a", "1"⟩, ⟨"a", "2"⟩, ⟨"a_1", "3"⟩]

def numberedPage : Document where
  filename := "index.marko"
  constants := [⟨"a_1", "0"⟩, ⟨"a", "1"⟩, ⟨"a_2", "2"⟩, ⟨"a_1_1", "3"⟩]

theorem numberedRequests_kept_apart :
    ({ filename := "index.marko" } : Document).constants = [] ∧
      addConstants { filename := "index.marko" } numberedRequests =
        (numberedPage, ["a_1", "a", "a_2", "a_1_1"]) ∧
      (numberedPage.constants.map (·.name)).Nodup ∧
      Denotes numberedPage.constants "a_1_1" "3" ∧
      (numberedPage.addConstant "a" "4").2 = "a_3" ∧
      Fresh numberedPage.constants "a" "a_3" ∧
      search numberedPage.constants (candidate32 "a") 5 0 = some "a_3" := by
  have run : addConstants { filename := "index.marko" } numberedRequests =
      (numberedPage, ["a_1", "a", "a_2", "a_1_1"]) := by decide +kernel
  obtain ⟨reached, given, same, distinct, denotes, next⟩ :=
    constants_kept_apart { filename := "index.marko" } rfl numberedRequests
  obtain ⟨rfl, rfl⟩ := Prod.mk.inj (run.symm.trans same)
  obtain ⟨fresh, pooled, isFresh, found⟩ := next "a" "4"
  have third : (numberedPage.addConstant "a" "4").2 = "a_3" := by decide +kernel
  obtain rfl : "a_3" = fresh := third.symm.trans (congrArg Prod.snd pooled)
  refine ⟨rfl, run, distinct, ?_, third, isFresh, ?_⟩
  · simp only [numberedRequests, List.forall₂_cons] at denotes
    exact denotes.2.2.2.1
  · exact (found 5 (by decide)).2 (by decide)

end TemplateWiring.Document
