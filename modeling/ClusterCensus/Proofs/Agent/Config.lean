import ClusterCensus.Agent.Config
import ClusterCensus.Proofs.Agent.Settings
import ClusterCensus.Shipping.Scenario

/-!
# What is accepted as a configuration

A number is read from a text just if the text is a word for one or zero or the digits of a number of
64 bits (`readNumber?_eq_some`), and what `toString` writes is read back (`reads_toString`). A field
is what its variable says, or its default if there is none (`number_eq_ok`, `port_eq_ok`). So the
configuration of an environment, if it has one, is what the environment tells (`load_eq_ok`), and it
has one if every text that is given can be used (`load_accepts_usable`).
-/

namespace ClusterCensus.Config

open Setting

/-! ## Numbers -/

/-- The number that a text is read as: one or zero if it is a word for them, in any case, or else
what its digits say, with or without a plus in front of them. -/
inductive Reads : String → Nat → Prop
  | one {text : String} : text.toLower ∈ ["true", "on", "yes"] → Reads text 1
  | zero {text : String} : text.toLower ∈ ["false", "off", "no"] → Reads text 0
  | digits {text : String} {ds : List Char} : text.toList = ds ∨ text.toList = '+' :: ds →
    ds ≠ [] → (∀ d ∈ ds, d.isDigit = true) → Nat.ofDigitChars 10 ds 0 < UInt64.size →
      Reads text (Nat.ofDigitChars 10 ds 0)

theorem digits_eq_some {ds : List Char} {n : Nat} :
    (if ds ≠ [] && ds.all Char.isDigit && Natural.digitsValue ds ≤ Natural.greatest
      then some (Natural.digitsValue ds) else none) = some n
    ↔ ds ≠ [] ∧ (∀ d ∈ ds, d.isDigit = true) ∧ Nat.ofDigitChars 10 ds 0 < UInt64.size
      ∧ n = Nat.ofDigitChars 10 ds 0 := by
  have hvalue : Natural.digitsValue ds = Nat.ofDigitChars 10 ds 0 := rfl
  have hgreatest : Nat.ofDigitChars 10 ds 0 ≤ Natural.greatest
      ↔ Nat.ofDigitChars 10 ds 0 < UInt64.size := Nat.le_sub_one_iff_lt (by decide)
  rw [Option.ite_none_right_eq_some, eq_comm (a := n)]
  simp only [Bool.and_eq_true, decide_eq_true_eq, List.all_eq_true, hgreatest, and_assoc,
    Option.some.injEq, hvalue]

theorem read?_eq_some {cs : List Char} {n : Nat} : Natural.read? cs = some n ↔
    ∃ ds, (cs = ds ∨ cs = '+' :: ds) ∧ ds ≠ [] ∧ (∀ d ∈ ds, d.isDigit = true)
      ∧ Nat.ofDigitChars 10 ds 0 < UInt64.size ∧ n = Nat.ofDigitChars 10 ds 0 := by
  unfold Natural.read?
  split
  · rename_i rest
    rw [digits_eq_some]
    refine ⟨fun h => ⟨rest, .inr rfl, h⟩, ?_⟩
    rintro ⟨ds, rfl | hds, hne, hall, h⟩
    · exact absurd (hall '+' List.mem_cons_self) (by decide)
    · cases hds
      exact ⟨hne, hall, h⟩
  · rename_i hplus
    rw [digits_eq_some]
    refine ⟨fun h => ⟨cs, .inl rfl, h⟩, ?_⟩
    rintro ⟨ds, rfl | rfl, h⟩
    · exact h
    · exact absurd rfl (hplus ds)

theorem toLower_of_isDigit {d : Char} (h : d.isDigit = true) : d.toLower = d := by
  unfold Char.toLower
  simp [Char.isDigit, UInt32.le_iff_toNat_le] at h ⊢
  omega

/-- A text with a digit in it is not a word. -/
theorem toLower_ne_of_isDigit {text : String} {d : Char} (hmem : d ∈ text.toList)
    (h : d.isDigit = true) {words : List String}
    (hwords : words.all (fun w => !w.toList.any Char.isDigit) = true) : text.toLower ∉ words := by
  intro hword
  have hlower : d ∈ text.toLower.toList := by
    change d ∈ (text.map Char.toLower).toList
    rw [String.toList_map]
    exact List.mem_map.2 ⟨d, hmem, toLower_of_isDigit h⟩
  have hnone := List.all_eq_true.1 hwords _ hword
  rw [List.any_eq_true.2 ⟨d, hlower, h⟩] at hnone
  cases hnone

theorem readNumber?_eq_some {text : String} {n : Nat} :
    readNumber? text = some n ↔ Reads text n := by
  unfold readNumber?
  dsimp only
  constructor
  · intro h
    split_ifs at h with hone hzero
    · cases h
      exact .one hone
    · cases h
      exact .zero hzero
    · obtain ⟨ds, hds, hne, hall, hlt, rfl⟩ := read?_eq_some.1 h
      exact .digits hds hne hall hlt
  · intro h
    cases h with
    | one hone => exact if_pos hone
    | zero hzero =>
      have hother : ∀ w ∈ ["false", "off", "no"], w ∉ ["true", "on", "yes"] := by decide
      rw [if_neg (hother _ hzero), if_pos hzero]
    | @digits ds hds hne hall hlt =>
      obtain ⟨d, hd⟩ := List.exists_mem_of_ne_nil ds hne
      have hmem : d ∈ text.toList := by
        rcases hds with hds | hds <;> rw [hds]
        · exact hd
        · exact List.mem_cons_of_mem _ hd
      -- with a digit in it the text is none of the words, so it is read by its digits
      rw [if_neg (toLower_ne_of_isDigit hmem (hall d hd) (by decide)),
        if_neg (toLower_ne_of_isDigit hmem (hall d hd) (by decide))]
      exact read?_eq_some.2 ⟨ds, hds, hne, hall, hlt, rfl⟩

theorem Reads.lt {text : String} {n : Nat} (h : Reads text n) : n < UInt64.size := by
  cases h with
  | one => decide
  | zero => decide
  | digits _ _ _ hlt => exact hlt

theorem reads_toString {n : Nat} (h : n < UInt64.size) : Reads (toString n) n := by
  have hvalue : Nat.ofDigitChars 10 (Nat.toDigits 10 n) 0 = n := Nat.ofDigitChars_ten_toDigits
  have hdigits : ∀ d ∈ Nat.toDigits 10 n, d.isDigit = true := fun d hd =>
    Nat.isDigit_of_mem_toDigits (by decide) (by decide) hd
  have htext : (toString n).toList = Nat.toDigits 10 n := by
    rw [Nat.toString_eq_ofList_toDigits, String.toList_ofList]
  have hreads := Reads.digits (.inl htext) Nat.toDigits_ne_nil hdigits (hvalue.symm ▸ h)
  rwa [hvalue] at hreads

/-! ## Fields -/

/-- Whether a number is what a key is given as, or its default if it is not given. -/
def Given (env : Environment) (key : String) (otherwise n : Nat) : Prop :=
  (∀ text, env.Sets key text → Reads text n) ∧ ((∀ text, ¬ env.Sets key text) → n = otherwise)

section Fields

variable {env : Environment} {key : String} (hflat : env.Flat) (hdistinct : env.Distinct)
  (hkey : isKey key.toList = true)

include hflat hdistinct hkey

theorem text_eq_ok {otherwise value : String} : text env key otherwise = .ok value ↔
    (∀ text, env.Sets key text → value = text)
      ∧ ((∀ text, ¬ env.Sets key text) → value = otherwise) := by
  rw [Environment.forall_sets_iff hdistinct, text, Environment.setting?_of_flat hflat hkey]
  rcases env.given? key with _ | given
  · exact (iff_of_eq (Except.ok.injEq ..)).trans eq_comm
  · exact (iff_of_eq (Except.ok.injEq ..)).trans eq_comm

theorem number_eq_ok {otherwise n : UInt64} : number env key otherwise = .ok n ↔
    Given env key otherwise.toNat n.toNat := by
  rw [Given, Environment.forall_sets_iff hdistinct, number,
    Environment.setting?_of_flat hflat hkey]
  rcases env.given? key with _ | given
  · change Except.ok otherwise = .ok n ↔ n.toNat = otherwise.toNat
    rw [Except.ok.injEq, UInt64.toNat_inj, eq_comm]
  · simp only [Option.map_some, Option.elim_some, ← readNumber?_eq_some]
    rcases hread : readNumber? given with _ | m
    · simp
    · have hlt := (readNumber?_eq_some.1 hread).lt
      rw [Except.ok.injEq, Option.some.injEq, ← UInt64.toNat_inj, UInt64.toNat_ofNat_of_lt' hlt]

theorem port_eq_ok {otherwise p : UInt16} : port env key otherwise = .ok p ↔
    Given env key otherwise.toNat p.toNat := by
  have hnumber (n : UInt64) : number env key otherwise.toUInt64 = .ok n ↔
      Given env key otherwise.toNat n.toNat := number_eq_ok hflat hdistinct hkey
  rw [port]
  constructor
  · intro h
    rcases hn : number env key otherwise.toUInt64 with e | n <;> rw [hn] at h
    · cases h
    · change (if n.toNat < UInt16.size then Except.ok n.toUInt16 else .error _) = _ at h
      split_ifs at h with hlt
      cases h
      rw [UInt64.toNat_toUInt16, Nat.mod_eq_of_lt hlt]
      exact (hnumber n).1 hn
  · intro h
    rw [(hnumber p.toUInt64).2 h]
    change (if p.toUInt64.toNat < UInt16.size then Except.ok p.toUInt64.toUInt16 else _) = _
    rw [if_pos (by rw [UInt16.toNat_toUInt64]; exact p.toNat_lt), UInt16.toUInt16_toUInt64]

end Fields

/-! ## Configurations -/

/-- Whether a configuration is what an environment tells: every field has what its variable says,
or its default if there is no such variable. -/
structure Tells (env : Environment) (c : Config) : Prop where
  nodeName : ∀ text, env.Sets "node_name" text → c.nodeName = text
  node : (∀ text, ¬ env.Sets "node_name" text) →
    c.nodeName = (env.get? "NODE_NAME").getD "unknown"
  apiPort : Given env "api_port" 8080 c.apiPort.toNat
  snapshotIntervalSecs : Given env "snapshot_interval_secs" 60 c.snapshotIntervalSecs.toNat
  syncTimeoutSecs : Given env "sync_timeout_secs" 300 c.syncTimeoutSecs.toNat
  stalenessThresholdSecs : Given env "staleness_threshold_secs" 900 c.stalenessThresholdSecs.toNat

/-- The keys of a configuration. -/
def keys : List String :=
  ["node_name", "api_port", "snapshot_interval_secs", "sync_timeout_secs",
    "staleness_threshold_secs"]

/-- The names of the variables that matter to the configuration. -/
def Matters (name : String) : Prop :=
  name = "NODE_NAME" ∨ ∃ key ∈ keys, lowered name = "agent_" ++ key

instance (name : String) : Decidable (Matters name) := inferInstanceAs (Decidable (_ ∨ _))

/-- The variables that say what a configuration is, with its numbers in decimal. -/
def settings (c : Config) : Environment :=
  [("AGENT_NODE_NAME", c.nodeName),
    ("AGENT_API_PORT", toString c.apiPort.toNat),
    ("AGENT_SNAPSHOT_INTERVAL_SECS", toString c.snapshotIntervalSecs.toNat),
    ("AGENT_SYNC_TIMEOUT_SECS", toString c.syncTimeoutSecs.toNat),
    ("AGENT_STALENESS_THRESHOLD_SECS", toString c.stalenessThresholdSecs.toNat)]

theorem isKey_of_mem_keys : ∀ key ∈ keys, isKey key.toList = true := by decide

theorem bind_eq_ok {ε α β : Type} {x : Except ε α} {f : α → Except ε β} {b : β} :
    (x >>= f) = .ok b ↔ ∃ a, x = .ok a ∧ f a = .ok b := by
  cases x <;> simp [bind, Except.bind]

theorem check_eq_ok {c d : Config} : c.check = .ok d ↔
    c = d ∧ d.snapshotIntervalSecs ≠ 0 ∧ d.syncTimeoutSecs ≠ 0 := by
  unfold check
  constructor
  · intro h
    split_ifs at h with hinterval htimeout
    cases h
    exact ⟨rfl, hinterval, htimeout⟩
  · rintro ⟨rfl, hinterval, htimeout⟩
    rw [if_neg hinterval, if_neg htimeout]

section Environments

variable {env : Environment} (hflat : env.Flat) (hdistinct : env.Distinct)

include hflat hdistinct

theorem read_eq_ok {c : Config} : read env = .ok c ↔ Tells env c := by
  have hread : read env = (do
      let nodeName ← text env "node_name" (defaultNode env)
      let apiPort ← port env "api_port" 8080
      let snapshotIntervalSecs ← number env "snapshot_interval_secs" 60
      let syncTimeoutSecs ← number env "sync_timeout_secs" 300
      let stalenessThresholdSecs ← number env "staleness_threshold_secs" 900
      pure ⟨nodeName, apiPort, snapshotIntervalSecs, syncTimeoutSecs,
        stalenessThresholdSecs⟩) := by
    rw [read, Environment.fault?_of_flat hflat]
    rfl
  have hkey := isKey_of_mem_keys
  simp only [hread, bind_eq_ok, text_eq_ok hflat hdistinct (hkey "node_name" (by decide)),
    port_eq_ok hflat hdistinct (hkey "api_port" (by decide)),
    number_eq_ok hflat hdistinct (hkey "snapshot_interval_secs" (by decide)),
    number_eq_ok hflat hdistinct (hkey "sync_timeout_secs" (by decide)),
    number_eq_ok hflat hdistinct (hkey "staleness_threshold_secs" (by decide))]
  constructor
  · rintro ⟨nodeName, ⟨hset, hunset⟩, apiPort, hport, interval, hinterval, timeout, htimeout,
      threshold, hthreshold, h⟩
    cases h
    exact ⟨hset, hunset, hport, hinterval, htimeout, hthreshold⟩
  · intro h
    exact ⟨c.nodeName, ⟨h.nodeName, h.node⟩, c.apiPort, h.apiPort, c.snapshotIntervalSecs,
      h.snapshotIntervalSecs, c.syncTimeoutSecs, h.syncTimeoutSecs, c.stalenessThresholdSecs,
      h.stalenessThresholdSecs, rfl⟩

theorem load_eq_ok {c : Config} : load env = .ok c ↔
    Tells env c ∧ c.snapshotIntervalSecs ≠ 0 ∧ c.syncTimeoutSecs ≠ 0 := by
  rw [load, bind_eq_ok]
  simp only [check_eq_ok, read_eq_ok hflat hdistinct]
  exact ⟨fun ⟨_, htells, heq, h⟩ => ⟨heq ▸ htells, h⟩, fun ⟨htells, h⟩ => ⟨c, htells, rfl, h⟩⟩

omit hdistinct in
/-- Only the variables that matter have an influence. -/
theorem load_filter : load (env.filter fun v => Matters v.1) = load env := by
  have hflat' : Environment.Flat (env.filter fun v => Matters v.1) := fun v hv =>
    hflat v (List.mem_filter.1 hv).1
  have hsetting (key : String) (hmem : key ∈ keys) :
      Environment.setting? (env.filter fun v => Matters v.1) key = env.setting? key := by
    rw [Environment.setting?_of_flat hflat' (isKey_of_mem_keys key hmem),
      Environment.setting?_of_flat hflat (isKey_of_mem_keys key hmem),
      Environment.given?_filter fun v _ hv => decide_eq_true (.inr ⟨key, hmem, hv⟩)]
  have hnode : defaultNode (env.filter fun v => Matters v.1) = defaultNode env := by
    rw [defaultNode, Environment.get?_filter fun v _ hv => decide_eq_true (.inl hv)]
    rfl
  have hread : read (env.filter fun v => Matters v.1) = read env := by
    rw [read, read, Environment.fault?_of_flat hflat', Environment.fault?_of_flat hflat]
    unfold port text number default
    rw [hnode, hsetting "node_name" (by decide), hsetting "api_port" (by decide),
      hsetting "snapshot_interval_secs" (by decide), hsetting "sync_timeout_secs" (by decide),
      hsetting "staleness_threshold_secs" (by decide)]
  rw [load, load, hread]

end Environments

/-! ### A configuration that is written into an environment -/

theorem names_settings (c : Config) : c.settings.map (·.1) = ["AGENT_NODE_NAME", "AGENT_API_PORT",
    "AGENT_SNAPSHOT_INTERVAL_SECS", "AGENT_SYNC_TIMEOUT_SECS", "AGENT_STALENESS_THRESHOLD_SECS"] :=
  rfl

theorem flat_settings (c : Config) : c.settings.Flat := by
  have hnames : ∀ name ∈ c.settings.map (·.1), '.' ∉ name.toList ∧ '[' ∉ name.toList := by
    rw [names_settings]
    decide
  exact List.forall_mem_map.1 hnames

theorem distinct_settings (c : Config) : c.settings.Distinct := by
  have hnames : (c.settings.map (·.1)).Pairwise fun v w =>
      lead <+: (lowered v).toList → lowered v ≠ lowered w := by
    rw [names_settings]
    decide
  exact List.pairwise_map.1 hnames

theorem given_of_sets {env : Environment} {key : String} (hdistinct : env.Distinct)
    {otherwise n : Nat} (hlt : n < UInt64.size) (h : env.Sets key (toString n)) :
    Given env key otherwise n :=
  ⟨fun _ ht => Environment.sets_unique hdistinct h ht ▸ reads_toString hlt,
    fun hunset => absurd h (hunset _)⟩

theorem tells_of_settings {env : Environment} (hdistinct : env.Distinct) {c : Config}
    (h : c.settings ⊆ env) : Tells env c := by
  have hsets (name : String) {key text : String} (hmem : (name, text) ∈ c.settings)
      (hname : lowered name = "agent_" ++ key) : env.Sets key text := ⟨name, h hmem, hname⟩
  have hnode : env.Sets "node_name" c.nodeName :=
    hsets "AGENT_NODE_NAME" (by simp [settings]) (by decide)
  have hport : c.apiPort.toNat < UInt64.size := c.apiPort.toNat_lt.trans (by decide)
  exact {
    nodeName := fun text ht => Environment.sets_unique hdistinct hnode ht
    node := fun hunset => absurd hnode (hunset _)
    apiPort := given_of_sets hdistinct hport
      (hsets "AGENT_API_PORT" (by simp [settings]) (by decide))
    snapshotIntervalSecs := given_of_sets hdistinct (UInt64.toNat_lt _)
      (hsets "AGENT_SNAPSHOT_INTERVAL_SECS" (by simp [settings]) (by decide))
    syncTimeoutSecs := given_of_sets hdistinct (UInt64.toNat_lt _)
      (hsets "AGENT_SYNC_TIMEOUT_SECS" (by simp [settings]) (by decide))
    stalenessThresholdSecs := given_of_sets hdistinct (UInt64.toNat_lt _)
      (hsets "AGENT_STALENESS_THRESHOLD_SECS" (by simp [settings]) (by decide)) }

/-! ## What is accepted -/

/-- Whether a key is not given, or is given as a number that fits. -/
def Usable (env : Environment) (key : String) (fits : Nat → Prop) : Prop :=
  ∀ text, env.Sets key text → ∃ n, Reads text n ∧ fits n

theorem Given.usable {env : Environment} {key : String} {otherwise n : Nat} {fits : Nat → Prop}
    (h : Given env key otherwise n) (hfits : fits n) : Usable env key fits :=
  fun text ht => ⟨n, h.1 text ht, hfits⟩

theorem Usable.exists_given {env : Environment} {key : String} (hdistinct : env.Distinct)
    {fits : Nat → Prop} (h : Usable env key fits) (otherwise : UInt64)
    (hotherwise : fits otherwise.toNat) :
    ∃ n : UInt64, fits n.toNat ∧ Given env key otherwise.toNat n.toNat := by
  simp only [Given, Environment.forall_sets_iff hdistinct]
  rcases hgiven : env.given? key with _ | text
  · exact ⟨otherwise, hotherwise, rfl⟩
  · obtain ⟨n, hreads, hfits⟩ := h text ((Environment.given?_eq_some hdistinct).1 hgiven)
    have hn : (UInt64.ofNat n).toNat = n := UInt64.toNat_ofNat_of_lt' hreads.lt
    exact ⟨.ofNat n, hn.symm ▸ hfits, hn.symm ▸ hreads⟩

theorem exists_load_iff {env : Environment} (hflat : env.Flat) (hdistinct : env.Distinct) :
    (∃ c, load env = .ok c) ↔ Usable env "api_port" (· < UInt16.size)
      ∧ Usable env "snapshot_interval_secs" (· ≠ 0) ∧ Usable env "sync_timeout_secs" (· ≠ 0)
      ∧ Usable env "staleness_threshold_secs" fun _ => True := by
  simp only [load_eq_ok hflat hdistinct]
  constructor
  · rintro ⟨c, h, hinterval, htimeout⟩
    exact ⟨h.apiPort.usable c.apiPort.toNat_lt,
      h.snapshotIntervalSecs.usable fun hzero => hinterval (UInt64.toNat_inj.1 hzero),
      h.syncTimeoutSecs.usable fun hzero => htimeout (UInt64.toNat_inj.1 hzero),
      h.stalenessThresholdSecs.usable trivial⟩
  · rintro ⟨hport, hinterval, htimeout, hthreshold⟩
    -- no field depends on another, so a value is found for each of them alone
    obtain ⟨port, hlt, hport⟩ := hport.exists_given hdistinct 8080 (by decide)
    obtain ⟨interval, hinterval, hi⟩ := hinterval.exists_given hdistinct 60 (by decide)
    obtain ⟨timeout, htimeout, ht⟩ := htimeout.exists_given hdistinct 300 (by decide)
    obtain ⟨threshold, -, hthreshold⟩ := hthreshold.exists_given hdistinct 900 trivial
    obtain ⟨nodeName, hname⟩ : ∃ nodeName, (∀ text, env.Sets "node_name" text → nodeName = text)
        ∧ ((∀ text, ¬ env.Sets "node_name" text) → nodeName = defaultNode env) := by
      simp only [Environment.forall_sets_iff hdistinct]
      rcases env.given? "node_name" with _ | text
      · exact ⟨_, rfl⟩
      · exact ⟨_, rfl⟩
    refine ⟨⟨nodeName, port.toUInt16, interval, timeout, threshold⟩,
      ⟨hname.1, hname.2, ?_, hi, ht, hthreshold⟩, fun hzero => hinterval (congrArg _ hzero),
      fun hzero => htimeout (congrArg _ hzero)⟩
    rwa [UInt64.toNat_toUInt16, Nat.mod_eq_of_lt hlt]

theorem ending_ne_noInterval {intervalMs : Nat} (h : 0 < intervalMs) (s : Shipping.Scenario)
    (shutdownAfterMs : Nat) (favours : List Bool) :
    (s.run intervalMs shutdownAfterMs favours).ending ≠ .noInterval := by
  unfold Shipping.Scenario.run
  rw [dif_pos h]
  dsimp only
  generalize Shipping.Work.run _ _ _ _ _ _ = c
  rcases c.state.fault with _ | fault
  · dsimp only
    split_ifs <;> simp
  · simp

theorem millis_snapshotInterval_pos {c : Config} (h : c.snapshotIntervalSecs ≠ 0) :
    0 < c.snapshotInterval.millis := by
  have hpos : 0 < c.snapshotIntervalSecs.toNat :=
    Nat.pos_of_ne_zero fun hzero => h (UInt64.toNat_inj.1 hzero)
  simp only [snapshotInterval, Span.ofSecs, Span.ofParts, Span.millis]
  omega

/-- There is a configuration just if every number that is given can be used, and then it is what the
environment tells. Other variables have no influence, a configuration that is written into an
environment is loaded from it again, and its interval is never one that the loop cannot run with. -/
theorem load_accepts_usable (env : Environment) (hflat : env.Flat) (hdistinct : env.Distinct) :
    ((∃ c, load env = .ok c) ↔ Usable env "api_port" (· ≤ 65535)
      ∧ Usable env "snapshot_interval_secs" (· ≠ 0) ∧ Usable env "sync_timeout_secs" (· ≠ 0)
      ∧ Usable env "staleness_threshold_secs" fun _ => True)
    ∧ (∀ c, load env = .ok c → Tells env c)
    ∧ load (env.filter fun v => Matters v.1) = load env
    ∧ (∀ c : Config, c.snapshotIntervalSecs ≠ 0 → c.syncTimeoutSecs ≠ 0 →
      load c.settings = .ok c ∧ (c.settings ⊆ env → load env = .ok c))
    ∧ ∀ c, load env = .ok c → ∀ (s : Shipping.Scenario) (shutdownAfterMs : Nat)
      (favours : List Bool),
      (s.run c.snapshotInterval.millis shutdownAfterMs favours).ending ≠ .noInterval := by
  have hload (c : Config) := load_eq_ok hflat hdistinct (c := c)
  refine ⟨?_, fun c h => ((hload c).1 h).1, load_filter hflat, ?_, ?_⟩
  · rw [exists_load_iff hflat hdistinct]
    simp only [UInt16.size, Nat.lt_succ_iff]
  · intro c hinterval htimeout
    refine ⟨(load_eq_ok c.flat_settings c.distinct_settings).2
      ⟨tells_of_settings c.distinct_settings (List.Subset.refl _), hinterval, htimeout⟩,
      fun h => ?_⟩
    exact (hload c).2 ⟨tells_of_settings hdistinct h, hinterval, htimeout⟩
  · intro c h
    exact ending_ne_noInterval (millis_snapshotInterval_pos ((hload c).1 h).2.1)

/-- An environment whose names are in mixed case, with a word for a number. -/
def mixedCase : Environment :=
  [("PATH", "/usr/bin"), ("NODE_NAME", "node-1"), ("Agent_Api_Port", "+9090"),
    ("AGENT_SNAPSHOT_INTERVAL_SECS", "On"), ("agent_staleness_threshold_secs", "0"),
    ("AGENT_UNKNOWN", "x")]

theorem load_mixedCase : mixedCase.Flat ∧ mixedCase.Distinct
    ∧ load mixedCase = .ok ⟨"node-1", 9090, 1, 300, 0⟩
    ∧ Tells mixedCase ⟨"node-1", 9090, 1, 300, 0⟩ := by
  have hflat : mixedCase.Flat := by decide
  have hdistinct : mixedCase.Distinct := by decide
  have hload : load mixedCase = .ok ⟨"node-1", 9090, 1, 300, 0⟩ := by decide +kernel
  exact ⟨hflat, hdistinct, hload, (load_accepts_usable mixedCase hflat hdistinct).2.1 _ hload⟩

end ClusterCensus.Config
