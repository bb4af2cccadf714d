import ClusterCensus.Agent.Environment
import Mathlib.Data.List.Find
import Mathlib.Data.List.Pairwise

/-!
# Settings without parts

A name in which there is no point and no bracket is a path of one key, if it is the name of a
setting (`path?_eq_some`). An environment of such names never sets a part of a value, and no value
is put where there is no room for it (`fault?_of_flat`). If besides no setting is there twice, then
what a key is set to is what some variable sets it to (`given?_eq_some`), in whatever order the
variables come.
-/

namespace ClusterCensus

namespace Setting

/-- A name in lower case. -/
def lowered (name : String) : String := String.ofList (name.toList.map lowerChar)

theorem eq_of_lowerChar_eq {c d : Char} (hd : d.toNat < 'a'.toNat) (h : lowerChar c = d) :
    c = d := by
  unfold lowerChar Char.toLower at h
  split_ifs at h with hkelvin hupper
  · subst h
    exact absurd hd (by decide)
  · subst h
    simp [UInt32.le_iff_toNat_le] at hd hupper
    omega
  · exact h

theorem not_mem_lowered {name : String} {d : Char} (hd : d.toNat < 'a'.toNat)
    (h : d ∉ name.toList) : d ∉ name.toList.map lowerChar := by
  intro hmem
  obtain ⟨c, hc, heq⟩ := List.mem_map.1 hmem
  exact h (eq_of_lowerChar_eq hd heq ▸ hc)

theorem ofText?_of_flat {cs : List Char} (hdot : '.' ∉ cs) (hbracket : '[' ∉ cs) :
    Path.ofText? cs = if isKey cs then some ⟨⟨String.ofList cs, []⟩, []⟩ else none := by
  unfold Path.ofText?
  rw [Text.pieces_of_not_mem hdot, List.mapM_cons, List.mapM_nil, Segment.ofText?,
    Text.pieces_of_not_mem hbracket]
  by_cases hkey : isKey cs = true
  · rw [if_pos hkey]
    simp [hkey]
  · simp [hkey]

/-- The path of a setting whose name has no point and no bracket is a key. -/
theorem path?_eq_some {name : String} (hdot : '.' ∉ name.toList) (hbracket : '[' ∉ name.toList)
    {p : Path} : path? name = some p ↔
      ∃ key, isKey key.toList = true ∧ lowered name = "agent_" ++ key ∧ p = ⟨⟨key, []⟩, []⟩ := by
  have hflat (d : Char) (hd : d.toNat < 'a'.toNat) (hmem : d ∉ name.toList) :
      d ∉ (name.toList.map lowerChar).drop lead.length := fun h =>
    not_mem_lowered hd hmem (List.mem_of_mem_drop h)
  have hlowered (key : String) :
      lowered name = "agent_" ++ key ↔ name.toList.map lowerChar = lead ++ key.toList := by
    rw [lowered, ← String.toList_inj, String.toList_ofList, String.toList_append, lead]
  unfold path?
  dsimp only
  rw [ofText?_of_flat (hflat '.' (by decide) hdot) (hflat '[' (by decide) hbracket)]
  simp only [hlowered]
  constructor
  · intro h
    split_ifs at h with hlead hkey
    obtain ⟨rest, hrest⟩ := List.isPrefixOf_iff_prefix.1 hlead
    rw [← hrest, List.drop_left] at hkey h
    cases h
    exact ⟨String.ofList rest, by rwa [String.toList_ofList], by rw [String.toList_ofList, hrest],
      rfl⟩
  · rintro ⟨key, hkey, hname, rfl⟩
    rw [hname, if_pos (List.isPrefixOf_iff_prefix.2 (List.prefix_append ..)), List.drop_left,
      if_pos hkey, String.ofList_toList]

end Setting

namespace Environment

open Setting

/-- No name has a point or a bracket. -/
def Flat (env : Environment) : Prop := ∀ v ∈ env, '.' ∉ v.1.toList ∧ '[' ∉ v.1.toList

/-- No two names that begin with `agent_` in any case are equal up to case. -/
def Distinct (env : Environment) : Prop :=
  env.Pairwise fun v w => lead <+: (lowered v.1).toList → lowered v.1 ≠ lowered w.1

/-- Whether a variable sets a key to a text. -/
def Sets (env : Environment) (key text : String) : Prop :=
  ∃ name, (name, text) ∈ env ∧ lowered name = "agent_" ++ key

instance (env : Environment) : Decidable env.Flat := inferInstanceAs (Decidable (∀ v ∈ env, _))

instance (env : Environment) : Decidable env.Distinct :=
  inferInstanceAs (Decidable (List.Pairwise _ _))

/-- The text of the last variable that sets a key. -/
def given? (env : Environment) (key : String) : Option String :=
  (env.reverse.find? fun v => lowered v.1 = "agent_" ++ key).map (·.2)

variable {env : Environment} {key : String}

theorem sets_unique (h : env.Distinct) {text other : String} (ht : env.Sets key text)
    (ho : env.Sets key other) : text = other := by
  obtain ⟨m, hm, hmkey⟩ := ht
  obtain ⟨n, hn, hnkey⟩ := ho
  -- the relation is symmetric where it matters: of two equal names both begin with `agent_`
  have hsymm : Std.Symm fun v w : String × String =>
      lead <+: (lowered v.1).toList → lowered v.1 ≠ lowered w.1 :=
    ⟨fun v w hvw hw heq => hvw (heq ▸ hw) heq.symm⟩
  by_contra hne
  refine h.forall hm hn (fun heq => hne (Prod.mk.inj heq).2) ?_ (hmkey.trans hnkey.symm)
  rw [hmkey, String.toList_append]
  exact List.prefix_append ..

theorem given?_eq_some (h : env.Distinct) {text : String} :
    env.given? key = some text ↔ env.Sets key text := by
  have hsets {other : String} (hgiven : env.given? key = some other) : env.Sets key other := by
    obtain ⟨v, hv, rfl⟩ := Option.map_eq_some_iff.1 hgiven
    have hname := List.find?_some hv
    exact ⟨v.1, List.mem_reverse.1 (List.mem_of_find?_eq_some hv), of_decide_eq_true hname⟩
  refine ⟨hsets, fun hset => ?_⟩
  rcases hgiven : env.given? key with _ | other
  · obtain ⟨name, hmem, hname⟩ := hset
    have hnone := List.find?_eq_none.1 (Option.map_eq_none_iff.1 hgiven) _
      (List.mem_reverse.2 hmem)
    exact absurd (decide_eq_true hname) hnone
  · rw [sets_unique h hset (hsets hgiven)]

theorem given?_eq_none (h : env.Distinct) :
    env.given? key = none ↔ ∀ text, ¬ env.Sets key text := by
  simp only [← given?_eq_some h, Option.eq_none_iff_forall_ne_some, ne_eq]

theorem find?_reverse_filter {p q : String × String → Bool}
    (h : ∀ v ∈ env, q v = true → p v = true) :
    (env.filter p).reverse.find? q = env.reverse.find? q := by
  rw [← List.filter_reverse, List.find?_filter]
  refine List.find?_congr fun v hv => ?_
  simp only [and_iff_right_of_imp (h v (List.mem_reverse.1 hv)), Bool.decide_eq_true]

theorem given?_filter {p : String × String → Bool}
    (h : ∀ v ∈ env, lowered v.1 = "agent_" ++ key → p v = true) :
    given? (env.filter p) key = env.given? key := by
  rw [given?, given?, find?_reverse_filter fun v hv hname => h v hv (of_decide_eq_true hname)]

theorem get?_filter {name : String} {p : String × String → Bool}
    (h : ∀ v ∈ env, v.1 = name → p v = true) : get? (env.filter p) name = env.get? name := by
  rw [get?, get?, find?_reverse_filter fun v hv hname => h v hv (of_decide_eq_true hname)]

/-- What holds of the text of a key, or without a text. -/
theorem forall_sets_iff (h : env.Distinct) {p : String → Prop} {q : Prop} :
    (∀ text, env.Sets key text → p text) ∧ ((∀ text, ¬ env.Sets key text) → q)
      ↔ (env.given? key).elim q p := by
  rcases hgiven : env.given? key with _ | text
  · have hnone := (given?_eq_none h).1 hgiven
    exact ⟨fun hpq => hpq.2 hnone, fun hq => ⟨fun text hset => absurd hset (hnone text),
      fun _ => hq⟩⟩
  · have hset := (given?_eq_some h).1 hgiven
    exact ⟨fun hpq => hpq.1 text hset, fun hp => ⟨fun other ho => sets_unique h hset ho ▸ hp,
      fun hnone => absurd hset (hnone text)⟩⟩

theorem fault?_of_flat (h : env.Flat) : env.fault? = none := by
  refine List.findSome?_eq_none_iff.2 fun s hs => ?_
  obtain ⟨v, hv, hpath⟩ := List.mem_filterMap.1 hs
  obtain ⟨p, hp, rfl⟩ := Option.map_eq_some_iff.1 hpath
  obtain ⟨hdot, hbracket⟩ := h v (List.mem_reverse.1 hv)
  obtain ⟨key, -, -, rfl⟩ := (path?_eq_some hdot hbracket).1 hp
  rfl

/-- Without parts a key is set to the text that is given for it. -/
theorem setting?_of_flat (h : env.Flat) (hkey : isKey key.toList = true) :
    env.setting? key = (env.given? key).map .text := by
  -- variable by variable, to look for a path of the key is to look for its name in lower case
  have hsame : ∀ v ∈ env.reverse,
      ((path? v.1).map fun p => (p, v.2)).any (fun s => decide (s.1.head.name = key))
        = decide (lowered v.1 = "agent_" ++ key) := by
    intro v hv
    obtain ⟨hdot, hbracket⟩ := h v (List.mem_reverse.1 hv)
    have hpath (p : Path) := path?_eq_some hdot hbracket (p := p)
    rcases hp : path? v.1 with _ | p
    · have hne : lowered v.1 ≠ "agent_" ++ key := fun hname => by
        have := (hpath _).2 ⟨key, hkey, hname, rfl⟩
        rw [hp] at this
        cases this
      simp [hne]
    · obtain ⟨other, -, hname, rfl⟩ := (hpath p).1 hp
      simp [hname]
  unfold setting? paths given?
  rw [List.find?_filterMap, List.find?_congr hsame]
  rcases hfind : List.find? _ env.reverse with _ | v
  · rfl
  · obtain ⟨hdot, hbracket⟩ := h v (List.mem_reverse.1 (List.mem_of_find?_eq_some hfind))
    have hname := List.find?_some hfind
    have hpath := (path?_eq_some hdot hbracket).2 ⟨key, hkey, of_decide_eq_true hname, rfl⟩
    rw [Option.bind_some, hpath]
    rfl

end Environment

end ClusterCensus
