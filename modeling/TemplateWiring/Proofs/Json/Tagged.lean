import TemplateWiring.Proofs.Json.Shape

namespace TemplateWiring.Json

variable {σ : Type}

theorem depth_of_chooseTag {names : List String} {source : Source} {r : Reading} {k : Nat}
    (named : chooseTag names source r = .ok k) : r.depth = 0 := by
  unfold chooseTag at named
  split at named
  · rfl
  · rfl
  · exact absurd named (Decoder.refuse_ne_ok _ _ _)

namespace Tagged

variable {t : Tagged σ} {source : Source}

/-- Members that are told apart: the variant they name, and the others. -/
inductive Split (t : Tagged σ) (source : Source) :
    List (Key × Reading) → Option (Variant σ) → List (Key × Reading) → Prop
  | nil : Split t source [] none []
  | tag {r : Reading} {ms rest : List (Key × Reading)} {v : Variant σ}
      (chosen : t.choose source r = .ok v) (later : Split t source ms none rest) :
      Split t source ((.name t.tag, r) :: ms) (some v) rest
  | other {name : String} {r : Reading} {ms rest : List (Key × Reading)}
      {found : Option (Variant σ)} (apart : name ≠ t.tag) (whole : source.readWhole r = .ok ())
      (later : Split t source ms found rest) :
      Split t source ((.name name, r) :: ms) found ((.name name, r) :: rest)

theorem splitTag_of_split {ms rest : List (Key × Reading)} {here : Option (Variant σ)}
    (split : Split t source ms here rest) {before : Option (Variant σ)}
    (once : before = none ∨ here = none) :
    t.splitTag source before ms = .ok (before.or here, rest) := by
  induction split generalizing before with
  | nil => simp [splitTag]
  | @tag r ms rest v chosen _ ih =>
      obtain rfl : before = none := once.resolve_right (Option.some_ne_none v)
      simp only [splitTag, Key.read, chosen, ih (.inr rfl), bind, Except.bind]
      simp
  | other apart whole _ ih =>
      simp only [splitTag, Key.read, apart, whole, ih once, bind, Except.bind, if_false]
      rfl

theorem split_of_splitTag {before found : Option (Variant σ)} {ms rest : List (Key × Reading)}
    (read : t.splitTag source before ms = .ok (found, rest)) :
    ∃ here, Split t source ms here rest ∧ (before = none ∨ here = none) ∧
      found = before.or here := by
  induction ms generalizing before rest with
  | nil =>
      cases read
      exact ⟨none, .nil, .inr rfl, (Option.or_none).symm⟩
  | cons m ms ih =>
      obtain ⟨key, r⟩ := m
      obtain ⟨name, named, onward⟩ := ok_of_bind read
      cases key with
      | unreadable => cases named
      | name name =>
          cases named
          split at onward
          next same =>
            subst same
            split at onward
            · cases onward
            next new =>
              obtain ⟨v, chosen, onward⟩ := ok_of_bind onward
              obtain ⟨here, split, once, rfl⟩ := ih onward
              obtain rfl : here = none := once.resolve_left (Option.some_ne_none v)
              obtain rfl : before = none := by simpa using new
              exact ⟨some v, .tag chosen split, .inl rfl, rfl⟩
          next apart =>
            obtain ⟨⟨⟩, whole, onward⟩ := ok_of_bind onward
            obtain ⟨⟨found', rest'⟩, inner, onward⟩ := ok_of_bind onward
            cases onward
            obtain ⟨here, split, once, made⟩ := ih inner
            exact ⟨here, .other apart whole split, once, made⟩

theorem Split.sublist {ms rest : List (Key × Reading)} {found : Option (Variant σ)}
    (split : Split t source ms found rest) : rest.Sublist ms := by
  induction split with
  | nil => exact .slnil
  | tag _ _ ih => exact ih.cons _
  | other _ _ _ ih => exact ih.cons_cons _

theorem choose_eq_ok {r : Reading} {v : Variant σ} (chosen : t.choose source r = .ok v) :
    ∃ k, chooseTag (Variant.names t.variants) source r = .ok k ∧ t.variants[k]? = some v := by
  obtain ⟨k, named, chosen⟩ := ok_of_bind chosen
  refine ⟨k, named, ?_⟩
  split at chosen
  next found =>
    cases chosen
    exact found
  · cases chosen

theorem depth_of_choose {r : Reading} {v : Variant σ} (chosen : t.choose source r = .ok v) :
    r.depth = 0 ∧ v ∈ t.variants := by
  obtain ⟨k, named, known⟩ := choose_eq_ok chosen
  exact ⟨depth_of_chooseTag named, List.mem_of_getElem? known⟩

theorem Split.whole {ms rest : List (Key × Reading)} {found : Option (Variant σ)}
    (split : Split t source ms found rest) :
    (∀ v ∈ found, v ∈ t.variants) ∧ ∀ m ∈ ms, m.2.depth = 0 ∨ source.readWhole m.2 = .ok () := by
  induction split with
  | nil => exact ⟨fun _ here => absurd here (Option.not_mem_none _), List.forall_mem_nil _⟩
  | tag chosen _ ih =>
      obtain ⟨flat, among⟩ := depth_of_choose chosen
      refine ⟨fun v here => ?_, List.forall_mem_cons.mpr ⟨.inl flat, ih.2⟩⟩
      cases here
      exact among
  | other _ whole _ ih => exact ⟨ih.1, List.forall_mem_cons.mpr ⟨.inr whole, ih.2⟩⟩

theorem readAll_eq_ok {rs : List Reading} :
    readAll source rs = .ok () ↔ ∀ r ∈ rs, source.readWhole r = .ok () := by
  constructor
  · intro read
    induction rs with
    | nil => exact List.forall_mem_nil _
    | cons r rs ih =>
        obtain ⟨⟨⟩, first, rest⟩ := ok_of_bind read
        exact List.forall_mem_cons.mpr ⟨first, ih rest⟩
  · intro each
    induction rs with
    | nil => rfl
    | cons r rs ih =>
        obtain ⟨first, rest⟩ := List.forall_mem_cons.mp each
        simp only [readAll, first, ih rest, bind, Except.bind]

theorem decode_object {ms : List (Key × Reading)} {stop : Option Stop} {a : σ} :
    t.decode source (.object ms stop) = .ok a ↔
      ∃ inner v rest, source.enter = .ok inner ∧ Split t inner ms (some v) rest ∧
        Stop.atEnd stop = .ok () ∧ v.decode .held (.object rest none) = .ok a := by
  constructor
  · intro read
    obtain ⟨inner, enter, read⟩ := ok_of_bind read
    obtain ⟨⟨found, rest⟩, told, read⟩ := ok_of_bind read
    obtain ⟨⟨⟩, ended, read⟩ := ok_of_bind read
    obtain ⟨here, split, -, made⟩ := split_of_splitTag told
    rw [Option.none_or] at made
    subst made
    cases found with
    | none => cases read
    | some v => exact ⟨inner, v, rest, enter, split, ended, read⟩
  · rintro ⟨inner, v, rest, enter, split, ended, read⟩
    simp only [decode, enter, splitTag_of_split split (.inl rfl), ended, bind, Except.bind]
    exact read

theorem decode_list {items : List Reading} {stop : Option Stop} {a : σ} :
    t.decode source (.list items stop) = .ok a ↔
      ∃ inner v first rest, items = first :: rest ∧ source.enter = .ok inner ∧
        t.choose inner first = .ok v ∧ (∀ r ∈ rest, inner.readWhole r = .ok ()) ∧
        Stop.atEnd stop = .ok () ∧ v.decode .held (.list rest none) = .ok a := by
  constructor
  · intro read
    obtain ⟨inner, enter, read⟩ := ok_of_bind read
    cases items with
    | nil =>
        obtain ⟨-, -, read⟩ := ok_of_bind read
        cases read
    | cons first rest =>
        obtain ⟨v, chosen, read⟩ := ok_of_bind read
        obtain ⟨⟨⟩, each, read⟩ := ok_of_bind read
        obtain ⟨⟨⟩, ended, read⟩ := ok_of_bind read
        exact ⟨inner, v, first, rest, rfl, enter, chosen, readAll_eq_ok.mp each, ended, read⟩
  · rintro ⟨inner, v, first, rest, rfl, enter, chosen, each, ended, read⟩
    simp only [decode, enter, chosen, readAll_eq_ok.mpr each, ended, bind, Except.bind]
    exact read

/-- What a tagged value is decoded from: a variant, and what is left without the tag. -/
structure Opened (t : Tagged σ) (source : Source) (r : Reading) (v : Variant σ) (body : Reading) :
    Prop where
  known : v ∈ t.variants
  parts : ∀ x ∈ body.parts, x ∈ r.parts
  collection : 1 ≤ r.depth
  whole : ∃ inner, source.enter = .ok inner ∧
    ∀ x ∈ r.parts, x.depth = 0 ∨ inner.readWhole x = .ok ()

theorem decode_opened {r : Reading} {a : σ} (read : t.decode source r = .ok a) :
    ∃ v body, t.Opened source r v body ∧ v.decode .held body = .ok a := by
  unfold decode at read
  split at read
  next ms stop =>
    obtain ⟨inner, v, rest, enter, split, -, read⟩ := decode_object.mp read
    obtain ⟨known, each⟩ := split.whole
    refine ⟨v, .object rest none, ⟨known v rfl, List.map_subset _ split.sublist.subset,
      Nat.succ_le_succ (Nat.zero_le _), inner, enter, ?_⟩, read⟩
    exact List.forall_mem_map.mpr each
  next items stop =>
    obtain ⟨inner, v, first, rest, rfl, enter, chosen, each, -, read⟩ := decode_list.mp read
    obtain ⟨flat, among⟩ := depth_of_choose chosen
    refine ⟨v, .list rest none, ⟨among, fun x => List.mem_cons_of_mem _,
      Nat.succ_le_succ (Nat.zero_le _), inner, enter, ?_⟩, read⟩
    exact List.forall_mem_cons.mpr ⟨.inl flat, fun x member => .inr (each x member)⟩
  next => exact absurd read (Decoder.refuse_ne_ok _ _ _)

theorem depth_of_decode {room : Nat} {r : Reading} {a : σ}
    (read : t.decode (.reading room) r = .ok a) : r.depth ≤ room := by
  obtain ⟨v, body, opened, -⟩ := decode_opened read
  obtain ⟨inner, enter, each⟩ := opened.whole
  obtain ⟨n, rfl, rfl⟩ := Source.room_of_enter enter
  have below : ∀ x ∈ r.parts, x.depth ≤ n := by
    intro x member
    rcases each x member with flat | whole
    · exact flat ▸ Nat.zero_le _
    · exact Source.depth_of_readWhole whole
  exact Reading.depth_le_parts below

end Tagged

namespace Adjacent

variable {a : Adjacent σ} {source : Source}

/-- What the members hold that matter, each with whether it is the name of the variant. -/
inductive Picked (a : Adjacent σ) (source : Source) :
    List (Key × Reading) → List (Bool × Reading) → Prop
  | nil : Picked a source [] []
  | tag {r : Reading} {ms : List (Key × Reading)} {found : List (Bool × Reading)}
      (later : Picked a source ms found) :
      Picked a source ((.name a.tag, r) :: ms) ((true, r) :: found)
  | content {r : Reading} {ms : List (Key × Reading)} {found : List (Bool × Reading)}
      (apart : a.content ≠ a.tag) (later : Picked a source ms found) :
      Picked a source ((.name a.content, r) :: ms) ((false, r) :: found)
  | skip {name : String} {r : Reading} {ms : List (Key × Reading)} {found : List (Bool × Reading)}
      (apart : name ≠ a.tag) (apart' : name ≠ a.content) (passed : source.skip r = .ok ())
      (later : Picked a source ms found) : Picked a source ((.name name, r) :: ms) found

inductive Settles (a : Adjacent σ) (source : Source) : List (Bool × Reading) → σ → Prop
  | bare {x : Reading} {c : Case σ} {v : σ} (chosen : a.choose source x = .ok c)
      (bare : c.bare = some v) : Settles a source [(true, x)] v
  | tagged {x y : Reading} {c : Case σ} {v : σ} (chosen : a.choose source x = .ok c)
      (read : c.decode source y = .ok v) : Settles a source [(true, x), (false, y)] v
  | buffered {x y : Reading} {c : Case σ} {v : σ} (whole : source.readWhole y = .ok ())
      (chosen : a.choose source x = .ok c) (read : c.decode .held y = .ok v) :
      Settles a source [(false, y), (true, x)] v

theorem next_eq_none {ms : List (Key × Reading)} {stop : Option Stop} :
    a.next source stop ms = .ok none ↔ Picked a source ms [] ∧ Stop.atEnd stop = .ok () := by
  constructor
  · intro read
    induction ms with
    | nil =>
        obtain ⟨⟨⟩, ended, -⟩ := ok_of_bind read
        exact ⟨.nil, ended⟩
    | cons m ms ih =>
        obtain ⟨key, r⟩ := m
        obtain ⟨name, named, onward⟩ := ok_of_bind read
        cases key with
        | unreadable => cases named
        | name name =>
            cases named
            split at onward
            · cases onward
            next apart =>
              split at onward
              · cases onward
              next apart' =>
                obtain ⟨⟨⟩, passed, onward⟩ := ok_of_bind onward
                obtain ⟨picked, ended⟩ := ih onward
                exact ⟨.skip apart apart' passed picked, ended⟩
  · rintro ⟨picked, ended⟩
    generalize none : ([] : List (Bool × Reading)) = found at picked
    induction picked with
    | nil =>
        simp only [next, ended, bind, Except.bind]
        rfl
    | tag => cases none
    | content => cases none
    | skip apart apart' passed _ ih =>
        simp only [next, Key.read, if_neg apart, if_neg apart', passed, ih none, bind, Except.bind]

theorem next_eq_some (stop : Option Stop) {ms : List (Key × Reading)} {b : Bool} {r : Reading}
    {found : List (Bool × Reading)} :
    (∃ rest, a.next source stop ms = .ok (some (b, r, rest)) ∧ Picked a source rest found) ↔
      Picked a source ms ((b, r) :: found) := by
  constructor
  · rintro ⟨rest, read, picked⟩
    induction ms with
    | nil =>
        obtain ⟨-, -, read⟩ := ok_of_bind read
        cases read
    | cons m ms ih =>
        obtain ⟨key, x⟩ := m
        obtain ⟨name, named, onward⟩ := ok_of_bind read
        cases key with
        | unreadable => cases named
        | name name =>
            cases named
            split at onward
            next same =>
              cases onward
              exact same ▸ .tag picked
            next apart =>
              split at onward
              next same =>
                cases onward
                exact same ▸ .content (same ▸ apart) picked
              next apart' =>
                obtain ⟨⟨⟩, passed, onward⟩ := ok_of_bind onward
                exact .skip apart apart' passed (ih onward)
  · intro picked
    generalize whole : (b, r) :: found = all at picked
    induction picked with
    | nil => cases whole
    | tag later =>
        cases whole
        refine ⟨_, ?_, later⟩
        simp only [next, Key.read, if_true, bind, Except.bind]
        rfl
    | content apart later =>
        cases whole
        refine ⟨_, ?_, later⟩
        simp only [next, Key.read, if_neg apart, if_true, bind, Except.bind]
        rfl
    | skip apart apart' passed _ ih =>
        obtain ⟨rest, read, later⟩ := ih whole
        refine ⟨rest, ?_, later⟩
        simp only [next, Key.read, if_neg apart, if_neg apart', passed, read, bind, Except.bind]

theorem finish_eq_ok {ms : List (Key × Reading)} {stop : Option Stop} :
    a.finish source stop ms = .ok () ↔ Picked a source ms [] ∧ Stop.atEnd stop = .ok () := by
  rw [← next_eq_none]
  constructor
  · intro read
    obtain ⟨found, next, read⟩ := ok_of_bind read
    cases found with
    | none => exact next
    | some m => cases read
  · intro next
    simp only [finish, next, bind, Except.bind]
    rfl

theorem decode_object {ms : List (Key × Reading)} {stop : Option Stop} {v : σ} :
    a.decode source (.object ms stop) = .ok v ↔
      ∃ inner found, source.enter = .ok inner ∧ Picked a inner ms found ∧
        Settles a inner found v ∧ Stop.atEnd stop = .ok () := by
  constructor
  · intro read
    obtain ⟨inner, enter, read⟩ := ok_of_bind read
    obtain ⟨first, next, read⟩ := ok_of_bind read
    cases first with
    | none => cases read
    | some first =>
        obtain ⟨b, x, ms'⟩ := first
        cases b with
        | true =>
            obtain ⟨c, chosen, read⟩ := ok_of_bind read
            obtain ⟨second, next', read⟩ := ok_of_bind read
            cases second with
            | none =>
                obtain ⟨picked, ended⟩ := next_eq_none.mp next'
                refine ⟨inner, _, enter, (next_eq_some stop).mp ⟨ms', next, picked⟩, ?_, ended⟩
                cases bare : c.bare with
                | none =>
                    rw [bare] at read
                    cases read
                | some value =>
                    rw [bare] at read
                    cases read
                    exact .bare chosen bare
            | some second =>
                obtain ⟨b', y, ms''⟩ := second
                cases b' with
                | true => cases read
                | false =>
                    obtain ⟨value, read, onward⟩ := ok_of_bind read
                    obtain ⟨⟨⟩, finished, onward⟩ := ok_of_bind onward
                    cases onward
                    obtain ⟨picked, ended⟩ := finish_eq_ok.mp finished
                    have later := (next_eq_some stop).mp ⟨ms'', next', picked⟩
                    exact ⟨inner, _, enter, (next_eq_some stop).mp ⟨ms', next, later⟩,
                      .tagged chosen read, ended⟩
        | false =>
            obtain ⟨⟨⟩, whole, read⟩ := ok_of_bind read
            obtain ⟨second, next', read⟩ := ok_of_bind read
            cases second with
            | none => cases read
            | some second =>
                obtain ⟨b', y, ms''⟩ := second
                cases b' with
                | false => cases read
                | true =>
                    obtain ⟨c, chosen, read⟩ := ok_of_bind read
                    obtain ⟨value, read, onward⟩ := ok_of_bind read
                    obtain ⟨⟨⟩, finished, onward⟩ := ok_of_bind onward
                    cases onward
                    obtain ⟨picked, ended⟩ := finish_eq_ok.mp finished
                    have later := (next_eq_some stop).mp ⟨ms'', next', picked⟩
                    exact ⟨inner, _, enter, (next_eq_some stop).mp ⟨ms', next, later⟩,
                      .buffered whole chosen read, ended⟩
  · rintro ⟨inner, found, enter, picked, settles, ended⟩
    cases settles with
    | bare chosen bare =>
        obtain ⟨ms', next, later⟩ := (next_eq_some stop).mpr picked
        simp only [decode, enter, ofObject, next, chosen, next_eq_none.mpr ⟨later, ended⟩, bare,
          bind, Except.bind]
        rfl
    | tagged chosen read =>
        obtain ⟨ms', next, later⟩ := (next_eq_some stop).mpr picked
        obtain ⟨ms'', next', last⟩ := (next_eq_some stop).mpr later
        simp only [decode, enter, ofObject, next, chosen, next', read,
          finish_eq_ok.mpr ⟨last, ended⟩, bind, Except.bind]
        rfl
    | buffered whole chosen read =>
        obtain ⟨ms', next, later⟩ := (next_eq_some stop).mpr picked
        obtain ⟨ms'', next', last⟩ := (next_eq_some stop).mpr later
        simp only [decode, enter, ofObject, next, whole, next', chosen, read,
          finish_eq_ok.mpr ⟨last, ended⟩, bind, Except.bind]
        rfl

theorem choose_eq_ok {r : Reading} {c : Case σ} (chosen : a.choose source r = .ok c) :
    r.depth = 0 ∧ c ∈ a.cases := by
  obtain ⟨k, named, chosen⟩ := ok_of_bind chosen
  refine ⟨depth_of_chooseTag named, ?_⟩
  split at chosen
  next found =>
    cases chosen
    exact List.mem_of_getElem? found
  · cases chosen

end Adjacent

end TemplateWiring.Json
