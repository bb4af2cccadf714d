import ClusterCensus.Proofs.Json.Fields

/-!
# Reading back what was written

The decoders of plain values, options, lists and maps undo their encoders. A record type is read
faithfully when its decoder undoes its encoder and takes a record in every form in which it may
come (`Faithful`); for a decoder made of declared fields only the first is left to prove
(`Fields.Declares.faithful`), and that field by field (`Fields.Reads`).
-/

namespace ClusterCensus.Json

variable {α : Type}

/-! ## Plain values -/

theorem decodeBool_bool (b : Bool) : decodeBool (.bool b) = .ok b := rfl

theorem decodeString_string (s : String) : decodeString (.string s) = .ok s := rfl

theorem decodeInteger_integer (name : String) {low high n : Int} (h : low ≤ n ∧ n ≤ high) :
    decodeInteger name low high (.integer n) = .ok n := if_pos h

theorem decodeUInt64_ofUInt64 (n : UInt64) : decodeUInt64 (ofUInt64 n) = .ok n := by
  have hbounds : (0 : Int) ≤ n.toNat ∧ (n.toNat : Int) ≤ UInt64.size - 1 := by
    have := n.toNat_lt_size
    omega
  rw [decodeUInt64, ofUInt64, decodeInteger_integer _ hbounds, Except.map, Int.toNat_natCast,
    UInt64.ofNat_toNat]

theorem decodeInt64_ofInt64 (n : Int64) : decodeInt64 (ofInt64 n) = .ok n := by
  have hbounds : Int64.minValue.toInt ≤ n.toInt ∧ n.toInt ≤ Int64.maxValue.toInt :=
    ⟨Int64.minValue_le_toInt n, n.toInt_le⟩
  rw [decodeInt64, ofInt64, decodeInteger_integer _ hbounds, Except.map, Int64.ofInt_toInt]

theorem decodeInt32_ofInt32 (n : Int32) : decodeInt32 (ofInt32 n) = .ok n := by
  have hbounds : Int32.minValue.toInt ≤ n.toInt ∧ n.toInt ≤ Int32.maxValue.toInt :=
    ⟨Int32.minValue_le_toInt n, n.toInt_le⟩
  rw [decodeInt32, ofInt32, decodeInteger_integer _ hbounds, Except.map, Int32.ofInt_toInt]

/-! ## Options, lists and maps -/

section Compound

variable {encode : α → Json} {decode : Decoder α}

theorem decodeOption_of_ne_null {v : Json} (h : v ≠ .null) :
    decodeOption decode v = (decode v).map some := by
  cases v <;> first | rfl | contradiction

theorem decodeOption_option (hne : ∀ a, encode a ≠ .null) (h : ∀ a, decode (encode a) = .ok a)
    (o : Option α) : decodeOption decode (option encode o) = .ok o := by
  cases o with
  | none => rfl
  | some a => rw [option, decodeOption_of_ne_null (hne a), h a]; rfl

theorem decodeItems_map (h : ∀ a, decode (encode a) = .ok a) :
    ∀ l : List α, decodeItems decode (l.map encode) = .ok l
  | [] => rfl
  | a :: l => by
    rw [List.map_cons, decodeItems, h a, decodeItems_map h l]
    rfl

theorem decodeList_array_map (h : ∀ a, decode (encode a) = .ok a) (l : List α) :
    decodeList decode (.array (l.map encode)) = .ok l := decodeItems_map h l

theorem decodeMembers_map (h : ∀ a, decode (encode a) = .ok a) :
    ∀ l : List (String × α), decodeMembers decode (l.map fun e => (e.1, encode e.2)) = .ok l
  | [] => rfl
  | e :: l => by
    rw [List.map_cons, decodeMembers, h e.2, decodeMembers_map h l]
    rfl

theorem decodeMap_object_map (h : ∀ a, decode (encode a) = .ok a) (m : SortedMap α) :
    decodeMap decode (.object (m.entries.map fun e => (e.1, encode e.2))) = .ok m := by
  rw [decodeMap, decodeMembers_map h, Except.map, SortedMap.ofList_entries]

end Compound

/-! ## Records -/

/-- The decoder undoes the encoder, and it takes a record in every form in which one may come: its
members in any order, among members of other names, without those that may be left out, and as an
array of the fields in their order. -/
structure Faithful (encode : α → Json) (decode : Decoder α) (names : List String)
    (absent : List (String × Json)) : Prop where
  decode_encode : ∀ a, decode (encode a) = .ok a
  recode : ∀ v a, decode v = .ok a →
    decode (encode a) = .ok a ∧ (decode (encode a)).map encode = .ok (encode a)
  perm : ∀ ms ms' : List (String × Json), (ms.map (·.1)).Nodup → ms'.Perm ms →
    ∀ a, decode (.object ms') = .ok a ↔ decode (.object ms) = .ok a
  unknown : ∀ n, n ∉ names → ∀ v ms, decode (.object ((n, v) :: ms)) = decode (.object ms)
  leftOut : ∀ e ∈ absent, ∀ ms : List (String × Json), e.1 ∉ ms.map (·.1) →
    decode (.object (e :: ms)) = decode (.object ms)
  array : ∀ items a, decode (.array items) = .ok a →
    items.length ≤ names.length ∧ decode (.object (names.zip items)) = .ok a
  fullArray : ∀ items, items.length = names.length → ∀ a,
    decode (.object (names.zip items)) = .ok a → decode (.array items) = .ok a

namespace Fields

theorem Declares.faithful {fs : Fields α} {names : List String} {absent : List (String × Json)}
    (h : Declares fs names absent) (hnodup : names.Nodup) {typeName : String} {encode : α → Json}
    (hround : ∀ a, fs.decode typeName (encode a) = .ok a) :
    Faithful encode (fs.decode typeName) names absent where
  decode_encode := hround
  recode _ a _ := ⟨hround a, by rw [hround a]; rfl⟩
  perm _ _ hnodup hperm _ := h.decode_perm hnodup hperm
  unknown _ hn v ms := h.decode_unknown hn v ms
  leftOut _ he _ hms := h.decode_absent hnodup he hms
  array _ _ ha := h.decode_array hnodup ha
  fullArray _ hlen _ ha := h.decode_array_of_length_eq hnodup hlen ha

/-- The record that the fields put together when they find these values, or none, under their
names. -/
def Reads (fs : Fields α) (values : List (String × Option Json)) (a : α) : Prop :=
  ∀ look : String → Option Json, (∀ e ∈ values, look e.1 = e.2) → fs.build look = .ok a

namespace Reads

variable {β : Type} {values : List (String × Option Json)} {name : String} {decode : Decoder α}

theorem start (a : α) : Reads (start a) [] a := fun _ _ => rfl

theorem field {fs : Fields (α → β)} {f : α → β} {given short : Option α} (h : Reads fs values f)
    {v : Json} {a : α} (hdecode : decode v = .ok a) :
    Reads (fs.field name decode given short) ((name, some v) :: values) (f a) := by
  intro look hlook
  obtain ⟨hv, hvalues⟩ := List.forall_mem_cons.1 hlook
  exact build_field_eq_ok.2 ⟨f, a, h look hvalues, rfl, .inl ⟨v, hv, hdecode⟩⟩

theorem absent {fs : Fields (α → β)} {f : α → β} {short : Option α} (h : Reads fs values f)
    {a : α} : Reads (fs.field name decode (some a) short) ((name, none) :: values) (f a) := by
  intro look hlook
  obtain ⟨hnone, hvalues⟩ := List.forall_mem_cons.1 hlook
  exact build_field_eq_ok.2 ⟨f, a, h look hvalues, rfl, .inr ⟨hnone, rfl⟩⟩

end Reads

/-- An object in which the fields find the values that they read decodes to the record. -/
theorem Declares.decode_of_reads {fs : Fields α} {names : List String}
    {absent : List (String × Json)} (h : Declares fs names absent)
    {values : List (String × Option Json)} {a : α} (hreads : fs.Reads values a) {typeName : String}
    {ms : List (String × Json)} (hnodup : (ms.map (·.1)).Nodup)
    (hms : values.map (fun e => member? ms e.1) = values.map (·.2)) :
    fs.decode typeName (.object ms) = .ok a :=
  (h.decode_object_eq_ok hnodup).2 (hreads _ (List.map_eq_map_iff.1 hms))

end Fields
end ClusterCensus.Json
