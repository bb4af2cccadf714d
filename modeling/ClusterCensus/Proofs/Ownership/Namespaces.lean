import ClusterCensus.Proofs.Ownership.Enrich

/-!
# Namespaces apart

Objects in proper namespaces, neither empty nor with a slash, have the same key only if they have
the same namespace and the same name, whatever characters the names have (`objectKey_inj`). So what
is looked up for a pod is among the records of its own namespace, at each of its climbs, and the
records of other namespaces have no say in its owner (`enrich_by_namespace`).
-/

namespace ClusterCensus

/-- A namespace that is not empty and has no slash. -/
def ProperNamespace (ns : String) : Prop := ns ≠ "" ∧ '/' ∉ ns.toList

instance (ns : String) : Decidable (ProperNamespace ns) := inferInstanceAs (Decidable (_ ∧ _))

theorem append_slash_inj {a b c d : List Char} (ha : '/' ∉ a) (hc : '/' ∉ c)
    (h : a ++ '/' :: b = c ++ '/' :: d) : a = c ∧ b = d := by
  rcases List.append_eq_append_iff.1 h with ⟨e, rfl, he⟩ | ⟨e, rfl, he⟩
  · cases e with
    | nil => simpa using he
    | cons x e =>
      cases (List.cons.inj he).1
      exact absurd (by simp) hc
  · cases e with
    | nil => simpa using he.symm
    | cons x e =>
      cases (List.cons.inj he).1
      exact absurd (by simp) ha

theorem objectKey_inj {ns ms : String} (hns : ProperNamespace ns) (hms : ProperNamespace ms)
    (a b : String) : objectKey (some ns) a = objectKey (some ms) b ↔ ns = ms ∧ a = b := by
  refine ⟨fun h => ?_, fun ⟨hnm, hab⟩ => by rw [hnm, hab]⟩
  simp only [objectKey, if_neg hns.1, if_neg hms.1] at h
  have hlist := congrArg String.toList h
  simp only [String.toList_append, List.append_assoc] at hlist
  obtain ⟨hnm, hab⟩ := append_slash_inj hns.2 hms.2 hlist
  exact ⟨String.toList_inj.1 hnm, String.toList_inj.1 hab⟩

/-- Of objects in proper namespaces, those with the key of one are those with its namespace and its
name. -/
theorem filter_objectKey {α : Type} {space title : α → String} {l : List α} {ns : String}
    (hl : ∀ a ∈ l, ProperNamespace (space a)) (hns : ProperNamespace ns) (name : String) :
    (l.filter fun a => objectKey (some (space a)) (title a) = objectKey (some ns) name)
      = (l.filter (space · = ns)).filter (title · = name) := by
  rw [List.filter_filter]
  refine List.filter_congr fun a ha => ?_
  rw [decide_eq_decide.2 (objectKey_inj (hl a ha) hns ..), Bool.decide_and, Bool.and_comm]

/-- Where a climb ends is where it began, or the owner of something. -/
theorem climb_owner (parent : OwnerRef → Option OwnerRef) : ∀ (hops : Nat) (o : OwnerRef),
    (climb parent hops o).owner = o ∨ ∃ q, parent q = some (climb parent hops o).owner
  | 0, _ => .inl rfl
  | hops + 1, o => by
    unfold climb
    rcases hp : parent o with _ | p
    · exact .inl rfl
    · refine .inr ?_
      rcases climb_owner parent hops p with htop | hnamed
      · exact ⟨o, by rw [hp, htop]⟩
      · exact hnamed

theorem Pod.owner_enrich (owners : Owners) (p : Pod) :
    (p.enrich owners).pod.owner = p.owner
      ∨ ∃ q top, owners.parent p.ns q = some top ∧ (p.enrich owners).pod.owner = some top := by
  rcases h : p.owner with _ | o
  · rw [enrich_of_none h]
    exact .inl h
  · by_cases hk : o.kind = OwnerRef.nodeKind
    · rw [enrich_of_node h hk]
      exact .inl h
    · by_cases ht : (owners.resolve p.ns o).owner = o
      · rw [enrich_of_top h hk ht]
        exact .inl h
      · rw [enrich_of_below h hk ht]
        obtain ⟨q, hq⟩ := (climb_owner (owners.parent p.ns) maxOwnerHops o).resolve_left ht
        exact .inr ⟨q, _, hq, rfl⟩

namespace Snapshot

/-- A snapshot whose pods, replica sets and jobs are in proper namespaces. -/
structure Proper (s : Snapshot) : Prop where
  pods : ∀ p ∈ s.pods, ProperNamespace p.ns
  replicaSets : ∀ r ∈ s.replicaSets, ProperNamespace r.ns
  jobs : ∀ j ∈ s.jobs, ProperNamespace j.ns

/-- Whether the records of a namespace name an owner: a replica set its own, a job its cron job. -/
def Names (s : Snapshot) (ns : String) (o : OwnerRef) : Prop :=
  (∃ r ∈ s.replicaSets, r.ns = ns ∧ r.owner = some o)
    ∨ ∃ j ∈ s.jobs, j.ns = ns ∧ ∃ c, j.cronJob = some c ∧ o = ⟨"CronJob", c, ""⟩

variable {s s₁ s₂ : Snapshot} {ns : String}

theorem filter_replicaSets (h : s.Proper) (hns : ProperNamespace ns) (name : String) :
    (s.replicaSets.filter fun r => r.key = objectKey (some ns) name)
      = (s.replicaSets.filter (·.ns = ns)).filter (·.name = name) :=
  filter_objectKey h.replicaSets hns name

theorem filter_jobs (h : s.Proper) (hns : ProperNamespace ns) (name : String) :
    (s.jobs.filter fun j => j.key = objectKey (some ns) name)
      = (s.jobs.filter (·.ns = ns)).filter (·.name = name) :=
  filter_objectKey h.jobs hns name

theorem parentOf_congr (h₁ : s₁.Proper) (h₂ : s₂.Proper) (hns : ProperNamespace ns)
    (hr : s₁.replicaSets.filter (·.ns = ns) = s₂.replicaSets.filter (·.ns = ns))
    (hj : s₁.jobs.filter (·.ns = ns) = s₂.jobs.filter (·.ns = ns)) :
    s₁.parentOf ns = s₂.parentOf ns := by
  funext o
  unfold parentOf
  rw [filter_replicaSets h₁ hns, filter_replicaSets h₂ hns, filter_jobs h₁ hns, filter_jobs h₂ hns,
    hr, hj]

theorem names_of_parentOf (h : s.Proper) (hns : ProperNamespace ns) {o p : OwnerRef}
    (hp : s.parentOf ns o = some p) : s.Names ns p := by
  unfold parentOf at hp
  rw [filter_replicaSets h hns, filter_jobs h hns] at hp
  split_ifs at hp
  · obtain ⟨r, hr, hp⟩ := Option.bind_eq_some_iff.1 hp
    obtain ⟨hmem, hrns⟩ := List.mem_filter.1 (List.mem_filter.1 (List.mem_of_getLast? hr)).1
    exact .inl ⟨r, hmem, of_decide_eq_true hrns, hp⟩
  · obtain ⟨c, hc, rfl⟩ := Option.map_eq_some_iff.1 hp
    obtain ⟨j, hj, hc⟩ := Option.bind_eq_some_iff.1 hc
    obtain ⟨hmem, hjns⟩ := List.mem_filter.1 (List.mem_filter.1 (List.mem_of_getLast? hj)).1
    exact .inr ⟨j, hmem, of_decide_eq_true hjns, c, hc, rfl⟩

/-- Enrichment keeps the pods of a namespace together. -/
theorem filter_pods_enrich (s : Snapshot) (ns : String) :
    s.enrich.snapshot.pods.filter (·.ns = ns)
      = (s.pods.filter (·.ns = ns)).map fun p => (p.enrich (.ofSnapshot s)).pod := by
  rw [pods_enrich, List.filter_map]
  congr 2
  funext p
  rw [Function.comp, Pod.pod_enrich]

/-- Two snapshots with the same replica sets and jobs in a namespace, whatever else they hold: the
pods of the namespace have the same owners in both after enrichment. Each of them is the owner that
the pod had before or one that the records of the namespace name. -/
theorem enrich_by_namespace (h₁ : s₁.Proper) (h₂ : s₂.Proper)
    (hr : s₁.replicaSets.filter (·.ns = ns) = s₂.replicaSets.filter (·.ns = ns))
    (hj : s₁.jobs.filter (·.ns = ns) = s₂.jobs.filter (·.ns = ns)) :
    (∃ owner : Pod → Option OwnerRef,
        s₁.enrich.snapshot.pods.filter (·.ns = ns)
            = (s₁.pods.filter (·.ns = ns)).map (fun p => { p with owner := owner p })
          ∧ s₂.enrich.snapshot.pods.filter (·.ns = ns)
            = (s₂.pods.filter (·.ns = ns)).map (fun p => { p with owner := owner p })
          ∧ ∀ p, p ∈ s₁.pods ∨ p ∈ s₂.pods → p.ns = ns →
            owner p = p.owner ∨ ∃ o, owner p = some o ∧ s₁.Names ns o ∧ s₂.Names ns o)
      ∧ (s₁.pods.filter (·.ns = ns) = s₂.pods.filter (·.ns = ns) →
        s₁.enrich.snapshot.pods.filter (·.ns = ns)
          = s₂.enrich.snapshot.pods.filter (·.ns = ns)) := by
  have hproper : ∀ p, p ∈ s₁.pods ∨ p ∈ s₂.pods → ProperNamespace p.ns := fun p hp =>
    hp.elim (h₁.pods p) (h₂.pods p)
  have henrich : ∀ p ∈ s₂.pods.filter (·.ns = ns),
      (p.enrich (.ofSnapshot s₂)).pod = (p.enrich (.ofSnapshot s₁)).pod := fun p hp => by
    obtain ⟨hmem, hpns⟩ := List.mem_filter.1 hp
    cases of_decide_eq_true hpns
    rw [Pod.enrich_congr]
    rw [parent_ofSnapshot, parent_ofSnapshot, parentOf_congr h₁ h₂ (hproper p (.inr hmem)) hr hj]
  refine ⟨⟨fun p => (p.enrich (.ofSnapshot s₁)).pod.owner, ?_, ?_, fun p hp hpns => ?_⟩,
    fun hpods => ?_⟩
  · rw [filter_pods_enrich]
    exact List.map_congr_left fun p _ => Pod.pod_enrich ..
  · rw [filter_pods_enrich, List.map_congr_left henrich]
    exact List.map_congr_left fun p _ => Pod.pod_enrich ..
  · subst hpns
    rcases Pod.owner_enrich (.ofSnapshot s₁) p with hsame | ⟨q, top, hq, htop⟩
    · exact .inl hsame
    · rw [parent_ofSnapshot] at hq
      have hns := hproper p hp
      exact .inr ⟨top, htop, names_of_parentOf h₁ hns hq,
        names_of_parentOf h₂ hns (parentOf_congr h₁ h₂ hns hr hj ▸ hq)⟩
  · rw [filter_pods_enrich, filter_pods_enrich, List.map_congr_left henrich, hpods]

/-- A pod of a replica set with a slash in its name, beside other records of another namespace. -/
theorem enrich_beside_others :
    let owner (name : String) : Option OwnerRef := some ⟨"Deployment", name, "1"⟩
    let replicaSet (ns name : String) (o : Option OwnerRef) : ReplicaSet := ⟨name, ns, "2", 1, o⟩
    let pod : Pod :=
      ⟨"a", "shop", "3", none, "Running", some ⟨"ReplicaSet", "web/1", "2"⟩, ∅, 0, 0⟩
    let beside (others : List ReplicaSet) : Snapshot :=
      (empty.replace .pods [pod]).replace .replicaSets
        (replicaSet "shop" "web/1" (owner "web") :: others)
    let s₁ := beside [replicaSet "mall" "web/1" (owner "other")]
    let s₂ := beside []
    s₁.Proper ∧ s₂.Proper
      ∧ s₁.replicaSets.filter (·.ns = "shop") = s₂.replicaSets.filter (·.ns = "shop")
      ∧ s₁.jobs.filter (·.ns = "shop") = s₂.jobs.filter (·.ns = "shop")
      ∧ s₁.replicaSets ≠ s₂.replicaSets
      ∧ s₁.enrich.snapshot.pods = [{ pod with owner := owner "web" }]
      ∧ s₁.enrich.snapshot.pods.filter (·.ns = "shop")
        = s₂.enrich.snapshot.pods.filter (·.ns = "shop") := by
  intro owner replicaSet pod beside s₁ s₂
  have h₁ : s₁.Proper := ⟨by decide, by decide, by decide⟩
  have h₂ : s₂.Proper := ⟨by decide, by decide, by decide⟩
  have hr : s₁.replicaSets.filter (·.ns = "shop") = s₂.replicaSets.filter (·.ns = "shop") := by
    decide
  have hpods : s₁.enrich.snapshot.pods = [{ pod with owner := owner "web" }] := by decide
  have hj : s₁.jobs.filter (·.ns = "shop") = s₂.jobs.filter (·.ns = "shop") := rfl
  exact ⟨h₁, h₂, hr, hj, by decide, hpods, (enrich_by_namespace h₁ h₂ hr hj).2 rfl⟩

end Snapshot

end ClusterCensus
