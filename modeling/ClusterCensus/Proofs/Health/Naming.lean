import ClusterCensus.Proofs.Health.Staleness
import ClusterCensus.Text.Basic

/-!
# Which kinds a health names

The message about a stale store has the names of kinds with commas between them. No name has a comma
in it, so the message cut at its commas gives the names back (`pieces_intercalate`), and there is
only one list of kinds that it can be about (`staleMessage?_injective`). The health of a store names
the stale kinds and no others (`names_ofStore`).
-/

namespace ClusterCensus

namespace Text

variable {mark : Char}

theorem pieces_append_mark {a : List Char} (h : mark ∉ a) (b : List Char) :
    pieces mark (a ++ mark :: b) = a :: pieces mark b := by
  induction a with
  | nil => simp [pieces]
  | cons c a ih =>
    rw [List.mem_cons, not_or] at h
    simp [pieces, Ne.symm h.1, ih h.2]

theorem append_intercalate (gap sep x : List Char) (xs : List (List Char)) :
    gap ++ sep.intercalate (x :: xs) = sep.intercalate ((gap ++ x) :: xs) := by
  cases xs <;> simp [List.intercalate_cons_cons]

/-- Pieces that were put together with a mark and a gap between them are cut apart at the marks. -/
theorem pieces_intercalate {gap : List Char} (hgap : mark ∉ gap) :
    ∀ (xs : List (List Char)) (x : List Char), mark ∉ x → (∀ y ∈ xs, mark ∉ y) →
      pieces mark ((mark :: gap).intercalate (x :: xs)) = x :: xs.map (gap ++ ·)
  | [], x, hx, _ => by
    rw [List.intercalate_singleton, pieces_of_not_mem hx, List.map_nil]
  | y :: ys, x, hx, hall => by
    obtain ⟨hy, hys⟩ := List.forall_mem_cons.1 hall
    have ih := pieces_intercalate hgap ys (gap ++ y) (by simp [hgap, hy]) hys
    rw [List.intercalate_cons_cons, List.append_assoc, List.cons_append, pieces_append_mark hx,
      append_intercalate, ih, List.map_cons]

end Text

namespace Health

/-- What is said of a store of which some kinds are stale. -/
def staleMessage? : List Kind → Option String
  | [] => none
  | stale =>
    some ("no updates within threshold: " ++ String.intercalate ", " (stale.map Kind.name))

theorem pieces_names {j : Kind} {js : List Kind} :
    Text.pieces ',' (String.intercalate ", " ((j :: js).map Kind.name)).toList
      = j.name.toList :: js.map fun k => ' ' :: k.name.toList := by
  have hnames (k : Kind) : ',' ∉ k.name.toList := by cases k <;> decide
  have hgap : ',' ∉ [' '] := by decide
  have hcut := Text.pieces_intercalate hgap (js.map fun k => k.name.toList) j.name.toList
    (hnames j) (by simp [hnames])
  rw [String.toList_intercalate, List.map_map, List.map_cons]
  refine hcut.trans ?_
  rw [List.map_map]
  rfl

theorem staleMessage?_injective : Function.Injective staleMessage?
  | [], [], _ => rfl
  | j :: js, k :: ks, h => by
    have htext := congrArg String.toList (Option.some.inj h)
    rw [String.toList_append, String.toList_append] at htext
    have hpieces := congrArg (Text.pieces ',') (List.append_cancel_left htext)
    rw [pieces_names, pieces_names] at hpieces
    obtain ⟨hj, hjs⟩ := List.cons.inj hpieces
    have hinj : Function.Injective fun k : Kind => ' ' :: k.name.toList := fun a b hab =>
      Kind.name_injective (String.toList_inj.1 (List.cons.inj hab).2)
    rw [Kind.name_injective (String.toList_inj.1 hj), hinj.list_map hjs]

/-- Whether the message of a health names a kind as stale. -/
def Component.Names (c : Component) (k : Kind) : Prop :=
  ∃ stale : List Kind, c.message = staleMessage? stale ∧ k ∈ stale

theorem message_ofStore (s : Store) (threshold : Span) (nowMs wallMs : Int) :
    (ofStore s threshold nowMs wallMs).message
      = staleMessage? (staleKinds s threshold nowMs) := by
  unfold ofStore
  cases staleKinds s threshold nowMs <;> rfl

theorem names_ofStore (s : Store) (threshold : Span) (nowMs wallMs : Int) (k : Kind) :
    (ofStore s threshold nowMs wallMs).Names k ↔ isStale s threshold nowMs k = true := by
  rw [← mem_staleKinds]
  constructor
  · rintro ⟨stale, hmessage, hk⟩
    rw [message_ofStore] at hmessage
    rw [staleMessage?_injective hmessage]
    exact hk
  · exact fun hk => ⟨_, message_ofStore s threshold nowMs wallMs, hk⟩

end Health

end ClusterCensus
