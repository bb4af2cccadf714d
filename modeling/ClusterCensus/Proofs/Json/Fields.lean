import ClusterCensus.Json.Decode
import ClusterCensus.Proofs.SortedMap

/-!
# What a record's fields declare

The fields of a record are put together one after the other (`Declares`), so what holds of all of
them is proved by following that: an object decodes to what its members build
(`decode_object_eq_ok`), members of other names do not count (`decode_unknown`), a member that may
be left out means the same as its stand-in (`decode_absent`), and an array means the object that
gives its items the names in their order (`decode_array`, `decode_array_of_length_eq`).
-/

namespace ClusterCensus.Json

theorem member?_append (l l' : List (String × Json)) (n : String) :
    member? (l ++ l') n = (member? l n).or (member? l' n) := by
  simp only [member?, List.find?_append]
  cases l.find? fun m => m.1 = n <;> rfl

theorem member?_cons (m : String × Json) (ms : List (String × Json)) (n : String) :
    member? (m :: ms) n = if m.1 = n then some m.2 else member? ms n := by
  simp only [member?, List.find?_cons]
  by_cases h : m.1 = n <;> simp [h]

theorem member?_eq_none {ms : List (String × Json)} {n : String} (h : n ∉ ms.map (·.1)) :
    member? ms n = none := by
  rw [member?, Option.map_eq_none_iff, List.find?_eq_none]
  intro m hm heq
  exact h (List.mem_map.2 ⟨m, hm, by simpa using heq⟩)

theorem member?_eq_some {ms : List (String × Json)} (hnodup : (ms.map (·.1)).Nodup) {n : String}
    {v : Json} : member? ms n = some v ↔ (n, v) ∈ ms :=
  SortedMap.find?_key_eq_some hnodup

theorem member?_perm {ms ms' : List (String × Json)} (hnodup : (ms.map (·.1)).Nodup)
    (h : ms'.Perm ms) : member? ms' = member? ms := by
  have hnodup' : (ms'.map (·.1)).Nodup := (h.map _).nodup_iff.2 hnodup
  funext n
  ext v
  rw [member?_eq_some hnodup', member?_eq_some hnodup, h.mem_iff]

theorem map_eq_ok {ε α β : Type} {x : Except ε α} {f : α → β} {b : β} :
    x.map f = .ok b ↔ ∃ a, x = .ok a ∧ f a = b := by
  cases x <;> simp [Except.map]

theorem zip_snoc {α β : Type} (a : α) : ∀ (as : List α) (bs : List β),
    (as ++ [a]).zip bs = as.zip bs ++ [a].zip (bs.drop as.length)
  | [], _ => rfl
  | _ :: _, [] => rfl
  | x :: as, b :: bs => by simp [zip_snoc a as bs]

theorem map_fst_zip_sublist {α β : Type} : ∀ (as : List α) (bs : List β),
    ((as.zip bs).map (·.1)).Sublist as
  | [], _ => by simp
  | _ :: _, [] => by simp
  | _ :: as, _ :: bs => (map_fst_zip_sublist as bs).cons_cons _

theorem nodup_snoc {α : Type} {as : List α} {a : α} : (as ++ [a]).Nodup ↔ a ∉ as ∧ as.Nodup := by
  rw [← List.concat_eq_append, List.nodup_concat]

/-- Looking up in a zip that ends with a new name. -/
theorem member?_zip_snoc {names : List String} {name : String} (hname : name ∉ names)
    (items : List Json) :
    (∀ n ∈ names, member? ((names ++ [name]).zip items) n = member? (names.zip items) n) ∧
      member? ((names ++ [name]).zip items) name = (items.drop names.length).head? := by
  rw [zip_snoc]
  refine ⟨fun n hn => ?_, ?_⟩
  · have hnone : member? ([name].zip (items.drop names.length)) n = none :=
      member?_eq_none fun hmem => by
        obtain rfl := List.mem_singleton.1 ((map_fst_zip_sublist [name] _).subset hmem)
        exact hname hn
    rw [member?_append, hnone, Option.or_none]
  · have hnone : member? (names.zip items) name = none :=
      member?_eq_none fun hmem => hname ((map_fst_zip_sublist names items).subset hmem)
    rw [member?_append, hnone, Option.none_or]
    cases items.drop names.length <;> simp [member?]

namespace Fields

variable {α β : Type} {names : List String} {absent : List (String × Json)}

/-- Changes what is put together and leaves how it is read. -/
def map (g : α → β) (fs : Fields α) : Fields β where
  count := fs.count
  check := fs.check
  build := fun members => (fs.build members).map g
  take := fun items => (fs.take items).map fun r => (g r.1, r.2)

/-- The fields have these names, in this order; and what may be left out means the same as the
value that stands beside its name. -/
inductive Declares : {α : Type} → Fields α → List String → List (String × Json) → Prop
  | start {α : Type} (a : α) : Declares (start a) [] []
  | map {α β : Type} {fs : Fields α} {names : List String} {absent : List (String × Json)}
      (g : α → β) (h : Declares fs names absent) : Declares (fs.map g) names absent
  | field {α β : Type} {fs : Fields (α → β)} {names : List String} {absent : List (String × Json)}
      {name : String} {decode : Decoder α} {given short : Option α} {more : List (String × Json)}
      (h : Declares fs names absent) (hshort : short = none ∨ short = given)
      (hmore : ∀ e ∈ more, e.1 = name ∧ ∃ a, given = some a ∧ decode e.2 = .ok a) :
      Declares (fs.field name decode given short) (names ++ [name]) (absent ++ more)

section Field

variable {fs : Fields (α → β)} {name : String} {decode : Decoder α} {given short : Option α}

theorem build_field_eq_ok {look : String → Option Json} {b : β} :
    (fs.field name decode given short).build look = .ok b ↔
      ∃ f a, fs.build look = .ok f ∧ f a = b ∧
        ((∃ v, look name = some v ∧ decode v = .ok a) ∨ look name = none ∧ given = some a) := by
  simp only [field]
  rcases fs.build look with e | f
  · simp [bind, Except.bind]
  · rcases look name with _ | v
    · rcases given with _ | a <;> simp [bind, Except.bind]
    · rcases hv : decode v with e | a <;> simp [bind, Except.bind, Except.map, hv]

theorem take_field_eq_ok {items rest : List Json} {b : β} :
    (fs.field name decode given short).take items = .ok (b, rest) ↔
      ∃ f a left, fs.take items = .ok (f, left) ∧ f a = b ∧
        ((∃ v, left = v :: rest ∧ decode v = .ok a) ∨ left = [] ∧ rest = [] ∧ short = some a) := by
  simp only [field]
  rcases fs.take items with e | ⟨f, left⟩
  · simp [bind, Except.bind]
  · rcases left with _ | ⟨v, left⟩
    · rcases short with _ | a <;> simp [bind, Except.bind, eq_comm]
    · rcases hv : decode v with e | a
      · simp only [bind, Except.bind, hv, reduceCtorEq, false_iff]
        rintro ⟨f', a, left', h, -, ⟨v', rfl, hd⟩ | ⟨rfl, -, -⟩⟩
        · simp only [Except.ok.injEq, Prod.mk.injEq, List.cons.injEq] at h
          rw [← h.2.1, hv] at hd
          contradiction
        · simp at h
      · simp only [bind, Except.bind, hv, Except.ok.injEq, Prod.mk.injEq]
        constructor
        · rintro ⟨rfl, rfl⟩
          exact ⟨f, a, _, ⟨rfl, rfl⟩, rfl, .inl ⟨v, rfl, hv⟩⟩
        · rintro ⟨_, a', _, ⟨rfl, rfl⟩, rfl, ⟨v', h, hd⟩ | ⟨h, -, -⟩⟩
          · obtain ⟨rfl, rfl⟩ := List.cons.inj h
            rw [hv] at hd
            exact ⟨by rw [Except.ok.inj hd], rfl⟩
          · contradiction

end Field

namespace Declares

theorem required {fs : Fields (α → β)} {name : String} {decode : Decoder α}
    (h : Declares fs names absent) :
    Declares (fs.required name decode) (names ++ [name]) absent := by
  have hfield : Declares (fs.field name decode none none) (names ++ [name]) (absent ++ []) :=
    h.field (.inl rfl) (by simp)
  rwa [List.append_nil] at hfield

theorem optional {fs : Fields (Option α → β)} {name : String} {decode : Decoder α}
    (h : Declares fs names absent) :
    Declares (fs.optional name decode) (names ++ [name]) (absent ++ [(name, .null)]) :=
  h.field (.inl rfl) (by simp [decodeOption])

theorem defaulted {fs : Fields (α → β)} {name : String} {decode : Decoder α} {value : α} {e : Json}
    (h : Declares fs names absent) (he : decode e = .ok value) :
    Declares (fs.defaulted name decode value) (names ++ [name]) (absent ++ [(name, e)]) :=
  h.field (.inr rfl) (by simp [he])

theorem check_of_notMem {fs : Fields α} (h : Declares fs names absent) {n : String} (hn : n ∉ names)
    (v : Json) : fs.check n v = .ok () := by
  induction h with
  | start => rfl
  | map _ _ ih => exact ih hn
  | field h _ _ ih =>
    simp only [List.mem_append, List.mem_singleton, not_or] at hn
    simp only [Fields.field, if_neg hn.2]
    exact ih hn.1

theorem check_of_build {fs : Fields α} (h : Declares fs names absent) {look : String → Option Json}
    {a : α} (ha : fs.build look = .ok a) {n : String} {v : Json} (hv : look n = some v) :
    fs.check n v = .ok () := by
  induction h with
  | start => rfl
  | map g _ ih =>
    obtain ⟨x, hx, -⟩ := map_eq_ok.1 ha
    exact ih hx
  | @field _ _ _ _ _ name decode _ _ _ h _ _ ih =>
    obtain ⟨f, x, hf, -, hx⟩ := build_field_eq_ok.1 ha
    simp only [Fields.field]
    split_ifs with hn
    · subst hn
      obtain ⟨w, hw, hd⟩ | ⟨hnone, -⟩ := hx
      · obtain rfl : w = v := Option.some.inj (hw.symm.trans hv)
        rw [hd]
        rfl
      · simp [hv] at hnone
    · exact ih hf

theorem build_congr {fs : Fields α} (h : Declares fs names absent)
    {look look' : String → Option Json} (heq : ∀ n ∈ names, look n = look' n) :
    fs.build look = fs.build look' := by
  induction h with
  | start => rfl
  | map g _ ih => simp only [Fields.map, ih heq]
  | field h _ _ ih =>
    have hname := heq _ (List.mem_append_right _ (List.mem_singleton_self _))
    simp only [Fields.field, ih fun n hn => heq n (List.mem_append_left _ hn), hname]

theorem mem_of_absent {fs : Fields α} (h : Declares fs names absent) {e : String × Json}
    (he : e ∈ absent) : e.1 ∈ names := by
  induction h with
  | start => simp at he
  | map _ _ ih => exact ih he
  | field h _ hmore ih =>
    rcases List.mem_append.1 he with he | he
    · exact List.mem_append_left _ (ih he)
    · rw [(hmore e he).1]
      exact List.mem_append_right _ (List.mem_singleton_self _)

theorem check_absent {fs : Fields α} (h : Declares fs names absent) (hnodup : names.Nodup)
    {e : String × Json} (he : e ∈ absent) : fs.check e.1 e.2 = .ok () := by
  induction h with
  | start => rfl
  | map _ _ ih => exact ih hnodup he
  | @field _ _ _ _ _ name _ _ _ _ h _ hmore ih =>
    obtain ⟨hname, hnodup⟩ := nodup_snoc.1 hnodup
    simp only [Fields.field]
    rcases List.mem_append.1 he with he | he
    · rw [if_neg fun heq : e.1 = name => hname (heq ▸ h.mem_of_absent he)]
      exact ih hnodup he
    · obtain ⟨heq, a, -, hd⟩ := hmore e he
      rw [if_pos heq, hd]
      rfl

theorem build_absent {fs : Fields α} (h : Declares fs names absent) (hnodup : names.Nodup)
    {e : String × Json} (he : e ∈ absent) {look : String → Option Json} (hnone : look e.1 = none) :
    fs.build (fun n => if e.1 = n then some e.2 else look n) = fs.build look := by
  induction h with
  | start => rfl
  | map g _ ih => simp only [Fields.map, ih hnodup he]
  | @field _ _ _ _ _ name _ _ _ _ h _ hmore ih =>
    obtain ⟨hname, hnodup⟩ := nodup_snoc.1 hnodup
    simp only [Fields.field]
    rcases List.mem_append.1 he with he | he
    · have hne : ¬ e.1 = name := fun heq => hname (heq ▸ h.mem_of_absent he)
      rw [ih hnodup he, if_neg hne]
    · obtain ⟨rfl, a, rfl, hd⟩ := hmore e he
      have hsame : ∀ n ∈ _, (if e.1 = n then some e.2 else look n) = look n := fun n hn =>
        if_neg fun heq : e.1 = n => hname (heq ▸ hn)
      have hfs := h.build_congr hsame
      simp [hfs, hnone, hd, Except.map]

/-- What is taken from an array is what the object with these names builds. -/
theorem take_eq_ok {fs : Fields α} (h : Declares fs names absent) (hnodup : names.Nodup)
    {items rest : List Json} {a : α} (ha : fs.take items = .ok (a, rest)) :
    rest = items.drop names.length ∧ fs.build (member? (names.zip items)) = .ok a := by
  induction h generalizing rest with
  | start =>
    obtain ⟨rfl, rfl⟩ := Prod.mk.inj (Except.ok.inj ha)
    exact ⟨rfl, rfl⟩
  | map g _ ih =>
    obtain ⟨⟨x, left⟩, hx, heq⟩ := map_eq_ok.1 ha
    obtain ⟨rfl, rfl⟩ := Prod.mk.inj heq
    obtain ⟨hleft, hbuild⟩ := ih hnodup hx
    exact ⟨hleft, map_eq_ok.2 ⟨x, hbuild, rfl⟩⟩
  | @field _ _ _ names _ name _ given _ _ h hshort _ ih =>
    obtain ⟨hname, hnodup⟩ := nodup_snoc.1 hnodup
    obtain ⟨f, x, left, hf, rfl, hx⟩ := take_field_eq_ok.1 ha
    obtain ⟨rfl, hbuild⟩ := ih hnodup hf
    obtain ⟨hsame, hhere⟩ := member?_zip_snoc hname items
    rw [List.length_append, List.length_singleton, ← List.drop_drop]
    have hbuild' := (h.build_congr hsame).trans hbuild
    obtain ⟨v, hv, hd⟩ | ⟨hnil, rfl, hs⟩ := hx
    · rw [hv] at hhere ⊢
      exact ⟨rfl, build_field_eq_ok.2 ⟨f, x, hbuild', rfl, .inl ⟨v, hhere, hd⟩⟩⟩
    · rw [hnil] at hhere ⊢
      refine ⟨rfl, build_field_eq_ok.2 ⟨f, x, hbuild', rfl, .inr ⟨hhere, ?_⟩⟩⟩
      obtain rfl | rfl := hshort
      · contradiction
      · exact hs

theorem take_of_build {fs : Fields α} (h : Declares fs names absent) (hnodup : names.Nodup)
    {items : List Json} {a : α} (hlen : names.length ≤ items.length)
    (ha : fs.build (member? (names.zip items)) = .ok a) :
    fs.take items = .ok (a, items.drop names.length) := by
  induction h with
  | start =>
    obtain rfl := Except.ok.inj ha
    rfl
  | map g _ ih =>
    obtain ⟨x, hx, rfl⟩ := map_eq_ok.1 ha
    exact map_eq_ok.2 ⟨_, ih hnodup hlen hx, rfl⟩
  | @field _ _ _ names _ name _ _ _ _ h _ _ ih =>
    obtain ⟨hname, hnodup⟩ := nodup_snoc.1 hnodup
    obtain ⟨hsame, hhere⟩ := member?_zip_snoc hname items
    rw [List.length_append, List.length_singleton] at hlen ⊢
    obtain ⟨f, x, hf, rfl, hx⟩ := build_field_eq_ok.1 ha
    have htake := ih hnodup (by omega) ((h.build_congr hsame).symm.trans hf)
    rw [List.drop_eq_getElem_cons (by omega)] at htake hhere
    rw [List.head?_cons] at hhere
    refine take_field_eq_ok.2 ⟨f, x, _, htake, rfl, .inl ⟨_, rfl, ?_⟩⟩
    obtain ⟨v, hv, hd⟩ | ⟨hnone, -⟩ := hx
    · obtain rfl := Option.some.inj (hhere.symm.trans hv)
      exact hd
    · rw [hhere] at hnone
      contradiction

end Declares

theorem checkAll_eq_ok {fs : Fields α} : ∀ {ms : List (String × Json)},
    fs.checkAll ms = .ok () ↔ ∀ m ∈ ms, fs.check m.1 m.2 = .ok ()
  | [] => by simp [checkAll]
  | m :: ms => by
    simp only [checkAll, List.forall_mem_cons, ← checkAll_eq_ok]
    rcases fs.check m.1 m.2 with e | _ <;> simp [bind, Except.bind]

namespace Declares

variable {fs : Fields α} {typeName : String}

theorem decode_object_eq_ok (h : Declares fs names absent) {ms : List (String × Json)}
    (hnodup : (ms.map (·.1)).Nodup) {a : α} :
    fs.decode typeName (.object ms) = .ok a ↔ fs.build (member? ms) = .ok a := by
  have hiff : fs.decode typeName (.object ms) = .ok a ↔
      fs.checkAll ms = .ok () ∧ fs.build (member? ms) = .ok a := by
    simp only [decode]
    rcases fs.checkAll ms with e | _ <;> simp [bind, Except.bind]
  rw [hiff, and_iff_right_iff_imp, checkAll_eq_ok]
  exact fun ha m hm => h.check_of_build ha ((member?_eq_some hnodup).2 hm)

theorem decode_perm (h : Declares fs names absent) {ms ms' : List (String × Json)}
    (hnodup : (ms.map (·.1)).Nodup) (hperm : ms'.Perm ms) {a : α} :
    fs.decode typeName (.object ms') = .ok a ↔ fs.decode typeName (.object ms) = .ok a := by
  have hnodup' := (hperm.map (·.1)).nodup_iff.2 hnodup
  rw [h.decode_object_eq_ok hnodup', h.decode_object_eq_ok hnodup, member?_perm hnodup hperm]

theorem decode_unknown (h : Declares fs names absent) {n : String} (hn : n ∉ names) (v : Json)
    (ms : List (String × Json)) :
    fs.decode typeName (.object ((n, v) :: ms)) = fs.decode typeName (.object ms) := by
  have hbuild : fs.build (member? ((n, v) :: ms)) = fs.build (member? ms) :=
    h.build_congr fun m hm => by rw [member?_cons, if_neg fun heq : n = m => hn (heq ▸ hm)]
  simp only [decode, checkAll, h.check_of_notMem hn, hbuild]
  rfl

theorem decode_absent (h : Declares fs names absent) (hnodup : names.Nodup) {e : String × Json}
    (he : e ∈ absent) {ms : List (String × Json)} (hms : e.1 ∉ ms.map (·.1)) :
    fs.decode typeName (.object (e :: ms)) = fs.decode typeName (.object ms) := by
  have hbuild : fs.build (member? (e :: ms)) = fs.build (member? ms) := by
    rw [← h.build_absent hnodup he (member?_eq_none hms)]
    exact congrArg fs.build (funext (member?_cons e ms))
  simp only [decode, checkAll, h.check_absent hnodup he, hbuild]
  rfl

theorem decode_array (h : Declares fs names absent) (hnodup : names.Nodup) {items : List Json}
    {a : α} (ha : fs.decode typeName (.array items) = .ok a) :
    items.length ≤ names.length ∧ fs.decode typeName (.object (names.zip items)) = .ok a := by
  simp only [decode] at ha
  split at ha <;> try contradiction
  rename_i b htake
  obtain rfl := Except.ok.inj ha
  obtain ⟨hdrop, hbuild⟩ := h.take_eq_ok hnodup htake
  exact ⟨List.drop_eq_nil_iff.1 hdrop.symm,
    (h.decode_object_eq_ok (hnodup.sublist (map_fst_zip_sublist names items))).2 hbuild⟩

theorem decode_array_of_length_eq (h : Declares fs names absent) (hnodup : names.Nodup)
    {items : List Json} (hlen : items.length = names.length) {a : α}
    (ha : fs.decode typeName (.object (names.zip items)) = .ok a) :
    fs.decode typeName (.array items) = .ok a := by
  have hbuild :=
    (h.decode_object_eq_ok (hnodup.sublist (map_fst_zip_sublist names items))).1 ha
  have htake := h.take_of_build hnodup (Nat.le_of_eq hlen.symm) hbuild
  rw [List.drop_eq_nil_of_le (Nat.le_of_eq hlen)] at htake
  simp only [decode, htake]

end Declares
end Fields
end ClusterCensus.Json
