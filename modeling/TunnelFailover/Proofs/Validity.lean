import Mathlib.Data.List.Nodup
import Mathlib.Data.List.Pairwise
import Mathlib.Order.Compare
import TunnelFailover.Config.Validation
import TunnelFailover.Proofs.Lookup
import TunnelFailover.Proofs.Run
/-!
This file says what settings without issues are like. Every part of the settings has no issue exactly
if it is sound, and the settings as a whole are accepted exactly if all their parts are sound.
-/

namespace TunnelFailover

open Float.Model (UnpackedFloat)

/-- A value that is not below a positive number is at least this number, or is no number. -/
theorem not_lt_positive (value : UnpackedFloat) {mantissa : Nat} (exponent : Int)
    (positive : 0 < mantissa) :
    (!value.lt (.finite .positive mantissa exponent positive)) =
      (UnpackedFloat.le (.finite .positive mantissa exponent positive) value || value.isNaN) := by
  cases value with
  | notANumber | zero => rfl
  | infinity sign => cases sign <;> rfl
  | finite sign other power =>
    cases sign with
    | negative => rfl
    | positive =>
      have reversed : (compare power exponent).then (compare other mantissa) =
          ((compare exponent power).then (compare mantissa other)).swap := by
        rw [Ordering.swap_then, Int.compare_swap, Nat.compare_swap]
      change (!some ((compare power exponent).then (compare other mantissa)) == some .lt) =
        ((some ((compare exponent power).then (compare mantissa other))).any (·.isLE) || false)
      rw [reversed]
      cases (compare exponent power).then (compare mantissa other) <;> rfl

/-- A factor that is not below one is at least one, or is no number. -/
theorem not_lt_one_iff (factor : Float) :
    ¬factor < 1 ↔ 1 ≤ factor ∨ factor.isNaN = true := by
  change ¬decide (factor.toModel.unpack.lt (1 : Float).toModel.unpack = true) = true ↔
    decide ((1 : Float).toModel.unpack.le factor.toModel.unpack = true) = true ∨
      factor.toModel.unpack.isNaN = true
  rw [decide_eq_true_iff, decide_eq_true_iff, ← Bool.or_eq_true, Bool.not_eq_true, ← Bool.not_eq_true']
  exact Bool.eq_iff_iff.1 (not_lt_positive _ _ _)

namespace Duration

theorem isZero_iff (duration : Duration) : duration.isZero = true ↔ duration = .zero := by
  obtain ⟨nanoseconds⟩ := duration
  simp [isZero, zero]

theorem not_lt {first second : Duration} : ¬first < second ↔ second ≤ first := Nat.not_lt

end Duration

theorem require_eq_nil_iff (condition : Bool) (issue : Issue) :
    require condition issue = [] ↔ condition = true := by
  unfold require
  split <;> simp_all

/-- A count of polls that a monitor accepts as a threshold. -/
def Thresholds.Allows (count : UInt64) : Prop := 2 ≤ count.toNat ∧ count.toNat ≤ 10

instance (count : UInt64) : Decidable (Thresholds.Allows count) :=
  inferInstanceAs (Decidable (_ ∧ _))

theorem Thresholds.exists_ofCounts_iff (down up : UInt64) :
    (∃ thresholds, ofCounts down up = .ok thresholds) ↔ Allows down ∧ Allows up := by
  unfold ofCounts
  rw [Allows, Allows]
  split
  · rename_i downRange
    split
    · rename_i upRange
      exact ⟨fun _ => ⟨downRange, upRange⟩, fun _ => ⟨_, rfl⟩⟩
    · rename_i upRange
      exact ⟨nofun, fun both => absurd both.2 upRange⟩
  · rename_i downRange
    exact ⟨nofun, fun both => absurd both.1 downRange⟩

/-- The delays of a sound policy are in order. Its factor is at least one, unless it is no number, and
one only if the delays are equal. -/
structure ReapplyPolicy.Sound (policy : ReapplyPolicy) : Prop where
  initial : policy.initialDelay = .zero ∨ .ofSeconds 1 ≤ policy.initialDelay
  maximum : policy.initialDelay ≤ policy.maximumDelay
  factor : 1 ≤ policy.factor ∨ policy.factor.isNaN = true
  steady : (policy.factor == 1) = true → policy.initialDelay = policy.maximumDelay

theorem ReapplySettings.issue?_eq_none_iff (settings : ReapplySettings) (field : String) :
    settings.issue? field = none ↔ settings.policy.Sound := by
  have check {condition : Prop} [Decidable condition] (issue : Issue) (later : Option Issue) :
      (if condition then some issue else later) = none ↔ ¬condition ∧ later = none := by
    split <;> simp_all
  unfold issue?
  simp only [check, not_and_or, Duration.not_lt, not_lt_one_iff, ReapplyPolicy.isEnabled,
    Bool.not_eq_true', Bool.not_eq_false, Duration.isZero_iff, not_not, and_true]
  constructor
  · rintro ⟨initial, maximum, factor, steady⟩
    exact ⟨initial, maximum, factor, fun one => steady.resolve_left fun other => other one⟩
  · rintro ⟨initial, maximum, factor, steady⟩
    exact ⟨initial, maximum, factor, not_or_of_imp steady⟩

/-- Scripts have some time, and both schedules make sense. -/
structure ReconcileSettings.Sound (settings : ReconcileSettings) : Prop where
  scripts : settings.scriptsTimeout ≠ .zero
  bridge : settings.bridgeActivate.reapply.policy.Sound
  interface : settings.interfaceActivate.reapply.policy.Sound

theorem ReconcileSettings.issues_eq_nil_iff (settings : ReconcileSettings) :
    settings.issues = [] ↔ settings.Sound := by
  simp only [issues, List.append_eq_nil_iff, require_eq_nil_iff, Option.toList_eq_nil_iff,
    ReapplySettings.issue?_eq_none_iff, Bool.not_eq_true', ← Bool.not_eq_true, Duration.isZero_iff]
  constructor
  · rintro ⟨⟨scripts, bridge⟩, interface⟩
    exact ⟨scripts, bridge, interface⟩
  · rintro ⟨scripts, bridge, interface⟩
    exact ⟨⟨scripts, bridge⟩, interface⟩

theorem ReapplySettings.sound_unset : unset.policy.Sound :=
  ⟨by decide, by decide, by decide, by decide⟩

theorem ReconcileSettings.sound_unset : unset.Sound :=
  ⟨by decide, ReapplySettings.sound_unset, ReapplySettings.sound_unset⟩

/-- The thresholds are those of a monitor. -/
structure TunnelSettings.Sound (settings : TunnelSettings) : Prop where
  down : Thresholds.Allows settings.thresholdDown
  up : Thresholds.Allows settings.thresholdUp

theorem TunnelSettings.issues_eq_nil_iff (settings : TunnelSettings) :
    settings.issues = [] ↔ settings.Sound := by
  simp only [issues, List.append_eq_nil_iff, require_eq_nil_iff, Bool.and_eq_true,
    decide_eq_true_iff]
  exact ⟨fun ⟨down, up⟩ => ⟨down, up⟩, fun ⟨down, up⟩ => ⟨down, up⟩⟩

namespace BridgeSettings

/-- The interface under a name is the one with the active role. -/
def IsPrimary (settings : BridgeSettings) (name : String) : Prop :=
  ∃ tunnel, settings.tunnels.get? name = some tunnel ∧ tunnel.role = .active

/-- The parts of a bridge are sound, and its times, its thresholds and its interfaces fit together. -/
structure Sound (settings : BridgeSettings) : Prop where
  interface : ∃ char ∈ settings.bridgeInterface.toList, isTextBlank char = false
  peers : settings.peerCidrs ≠ []
  partnerUrl : Url.schemeOf settings.partnerUrl = .ok "http" ∨
    Url.schemeOf settings.partnerUrl = .ok "https"
  partnerDown : Thresholds.Allows settings.partnerThresholdDown
  partnerUp : Thresholds.Allows settings.partnerThresholdUp
  probeInterval : .ofMilliseconds 100 ≤ settings.probeInterval
  partnerTimeout : .zero < settings.partnerTimeout ∧ settings.partnerTimeout ≤ settings.probeInterval
  tunnels : ∀ name tunnel, settings.tunnels.get? name = some tunnel → tunnel.Sound
  primary : ∃! name, settings.IsPrimary name
  reconcile : settings.reconcile.Sound

theorem partnerUrlIssue?_eq_none_iff (url : String) :
    partnerUrlIssue? url = none ↔
      Url.schemeOf url = .ok "http" ∨ Url.schemeOf url = .ok "https" := by
  unfold partnerUrlIssue?
  cases Url.schemeOf url with
  | error fault => simp
  | ok scheme => simp [← or_iff_not_imp_left]

theorem thresholdsIssue?_eq_none_iff (settings : BridgeSettings) :
    settings.thresholdsIssue? = none ↔
      Thresholds.Allows settings.partnerThresholdDown ∧
        Thresholds.Allows settings.partnerThresholdUp := by
  rw [← Thresholds.exists_ofCounts_iff]
  unfold thresholdsIssue?
  split <;> simp_all

/-- Exactly one interface has the active role if this is so under exactly one name. -/
theorem activeTunnels_eq_one_iff (settings : BridgeSettings) :
    settings.activeTunnels = 1 ↔ ∃! name, settings.IsPrimary name := by
  have entries : settings.activeTunnels =
      (settings.tunnels.entries.filter (·.2.role = .active)).length := by
    unfold activeTunnels NameMap.values
    rw [List.filter_map, List.length_map]
    rfl
  have member (entry : String × TunnelSettings) :
      entry ∈ settings.tunnels.entries.filter (·.2.role = .active) ↔
        entry ∈ settings.tunnels.entries ∧ entry.2.role = .active := by
    rw [List.mem_filter, decide_eq_true_iff]
  simp only [entries, List.length_eq_one_iff, IsPrimary, NameMap.get?_eq_some_iff]
  constructor
  · rintro ⟨only, found⟩
    rw [found] at member
    obtain ⟨present, active⟩ := (member only).1 (by simp)
    refine ⟨only.1, ⟨only.2, present, active⟩, ?_⟩
    rintro name ⟨tunnel, otherPresent, otherActive⟩
    have same := (member (name, tunnel)).2 ⟨otherPresent, otherActive⟩
    exact congrArg Prod.fst (List.mem_singleton.1 same)
  · rintro ⟨name, ⟨tunnel, present, active⟩, unique⟩
    have distinct : settings.tunnels.entries.Nodup := settings.tunnels.nodup_entries
    refine ⟨(name, tunnel), List.perm_singleton.1 ?_⟩
    refine (List.perm_ext_iff_of_nodup (distinct.filter _) (List.nodup_singleton _)).2 fun entry => ?_
    rw [member, List.mem_singleton]
    constructor
    · rintro ⟨otherPresent, otherActive⟩
      exact settings.tunnels.entry_unique otherPresent present
        (unique entry.1 ⟨entry.2, otherPresent, otherActive⟩)
    · rintro rfl
      exact ⟨present, active⟩

theorem issues_eq_nil_iff (settings : BridgeSettings) :
    settings.issues = [] ↔ settings.Sound := by
  have tunnels : (settings.tunnels.values.flatMap fun tunnel => require tunnel.issues.isEmpty
      (.bare "tunnel_interfaces" "tunnel_interface_invalid")) = [] ↔
      ∀ name tunnel, settings.tunnels.get? name = some tunnel → tunnel.Sound := by
    simp only [List.flatMap_eq_nil_iff, require_eq_nil_iff, List.isEmpty_iff,
      TunnelSettings.issues_eq_nil_iff, NameMap.get?_eq_some_iff, NameMap.values, List.mem_map]
    constructor
    · exact fun all name tunnel present => all tunnel ⟨_, present, rfl⟩
    · rintro all tunnel ⟨⟨name, _⟩, present, rfl⟩
      exact all name _ present
  have timeout : (!settings.partnerTimeout.isZero) = true ↔ .zero < settings.partnerTimeout := by
    rw [Bool.not_eq_true', ← Bool.not_eq_true, Duration.isZero, beq_iff_eq]
    exact Nat.pos_iff_ne_zero.symm
  simp only [issues, List.append_eq_nil_iff, tunnels, require_eq_nil_iff, Option.toList_eq_nil_iff,
    partnerUrlIssue?_eq_none_iff, thresholdsIssue?_eq_none_iff, decide_eq_true_iff,
    activeTunnels_eq_one_iff, List.isEmpty_iff, ReconcileSettings.issues_eq_nil_iff,
    Bool.and_eq_true, timeout, List.any_eq_true, Bool.not_eq_true', List.isEmpty_eq_false_iff]
  constructor
  · rintro ⟨⟨⟨⟨⟨⟨⟨⟨interface, peers⟩, url⟩, down, up⟩, interval⟩, timeout⟩, tunnels⟩, primary⟩,
      reconcile⟩
    exact ⟨interface, peers, url, down, up, interval, timeout, tunnels, primary, reconcile⟩
  · rintro ⟨interface, peers, url, down, up, interval, timeout, tunnels, primary, reconcile⟩
    exact ⟨⟨⟨⟨⟨⟨⟨⟨interface, peers⟩, url⟩, down, up⟩, interval⟩, timeout⟩, tunnels⟩, primary⟩,
      reconcile⟩

end BridgeSettings

/-- The buckets are as many as a histogram can have. -/
structure MetricsSettings.Sound (settings : MetricsSettings) : Prop where
  buckets : 2 ≤ settings.bucketCount.toNat ∧ settings.bucketCount.toNat ≤ 1000
  latency : 2 ≤ settings.maxLatency.toNat

theorem MetricsSettings.issues_eq_nil_iff (settings : MetricsSettings) :
    settings.issues = [] ↔ settings.Sound := by
  simp only [issues, List.append_eq_nil_iff, require_eq_nil_iff, Bool.and_eq_true,
    decide_eq_true_iff]
  exact ⟨fun ⟨buckets, latency⟩ => ⟨buckets, latency⟩, fun ⟨buckets, latency⟩ => ⟨buckets, latency⟩⟩

theorem MetricsSettings.sound_unset : unset.Sound := ⟨by decide, by decide⟩

namespace Config

/-- There is a bridge, every bridge is sound and has a location, and no two serve their status at one
address. -/
structure Sound (config : Config) : Prop where
  bridge : ∃ name settings, config.bridges.get? name = some settings
  bridges : ∀ name settings, config.bridges.get? name = some settings →
    settings.Sound ∧ ∃ location, settings.location name = .ok location
  addresses : ∀ first second settings others, config.bridges.get? first = some settings →
    config.bridges.get? second = some others → first ≠ second →
      settings.statusAddress ≠ others.statusAddress
  metrics : config.metrics.Sound

theorem locationIssue?_eq_none_iff (name : String) (settings : BridgeSettings) :
    locationIssue? name settings = none ↔ ∃ location, settings.location name = .ok location := by
  unfold locationIssue?
  split <;> simp_all

/-- The addresses that are taken already are those of the bridges before. -/
theorem bridgeIssues_eq_nil_iff (taken : List SocketAddress)
    (entries : List (String × BridgeSettings)) :
    bridgeIssues taken entries = [] ↔
      (∀ entry ∈ entries, entry.2.Sound ∧ ∃ location, entry.2.location entry.1 = .ok location) ∧
        (∀ entry ∈ entries, entry.2.statusAddress ∉ taken) ∧
        entries.Pairwise fun first second => first.2.statusAddress ≠ second.2.statusAddress := by
  induction entries generalizing taken with
  | nil => simp [bridgeIssues]
  | cons head rest inductionHypothesis =>
    -- The address of the head is taken for the rest, which keeps it apart from all of them.
    have free : (∀ entry ∈ rest, entry.2.statusAddress ∉ head.2.statusAddress :: taken) ↔
        (∀ entry ∈ rest, entry.2.statusAddress ∉ taken) ∧
          ∀ entry ∈ rest, head.2.statusAddress ≠ entry.2.statusAddress := by
      simp only [List.mem_cons, not_or, ← forall₂_and]
      exact forall₂_congr fun entry _ => and_comm.trans (and_congr_right' ne_comm)
    simp only [bridgeIssues, List.append_eq_nil_iff, require_eq_nil_iff, List.isEmpty_iff,
      BridgeSettings.issues_eq_nil_iff, Option.toList_eq_nil_iff, locationIssue?_eq_none_iff,
      Bool.not_eq_true', List.contains_eq_mem, decide_eq_false_iff_not, inductionHypothesis, free,
      List.forall_mem_cons, List.pairwise_cons]
    constructor
    · rintro ⟨⟨fits, unclaimed⟩, allFit, ⟨allUnclaimed, apart⟩, pairwise⟩
      exact ⟨⟨fits, allFit⟩, ⟨unclaimed, allUnclaimed⟩, apart, pairwise⟩
    · rintro ⟨⟨fits, allFit⟩, ⟨unclaimed, allUnclaimed⟩, apart, pairwise⟩
      exact ⟨⟨fits, unclaimed⟩, allFit, ⟨allUnclaimed, apart⟩, pairwise⟩

/-- No two bridges have one address if no two under different names do. -/
theorem pairwise_entries_iff (bridges : NameMap BridgeSettings) :
    (bridges.entries.Pairwise fun first second =>
        first.2.statusAddress ≠ second.2.statusAddress) ↔
      ∀ first second settings others, bridges.get? first = some settings →
        bridges.get? second = some others → first ≠ second →
          settings.statusAddress ≠ others.statusAddress := by
  simp only [NameMap.get?_eq_some_iff]
  constructor
  · intro pairwise first second settings others present otherPresent distinct
    have : Std.Symm fun first second : String × BridgeSettings =>
        first.2.statusAddress ≠ second.2.statusAddress := ⟨fun _ _ different => different.symm⟩
    exact pairwise.forall present otherPresent (ne_of_apply_ne Prod.fst distinct)
  · intro apart
    refine bridges.nodup_entries.pairwise_of_forall_ne fun first present second otherPresent
      different => apart _ _ _ _ present otherPresent fun same => ?_
    exact different (bridges.entry_unique present otherPresent same)

theorem issues_eq_nil_iff (config : Config) : config.issues = [] ↔ config.Sound := by
  have bridge : config.bridges.entries ≠ [] ↔
      ∃ name settings, config.bridges.get? name = some settings := by
    rw [ne_eq, List.eq_nil_iff_forall_not_mem]
    simp [NameMap.get?_eq_some_iff]
  simp only [issues, List.append_eq_nil_iff, require_eq_nil_iff, Bool.not_eq_true',
    List.isEmpty_eq_false_iff, bridge, bridgeIssues_eq_nil_iff, List.isEmpty_iff,
    MetricsSettings.issues_eq_nil_iff, pairwise_entries_iff]
  constructor
  · rintro ⟨⟨some, allFit, -, apart⟩, metrics⟩
    refine ⟨some, fun name settings found => ?_, apart, metrics⟩
    exact allFit (name, settings) ((NameMap.get?_eq_some_iff ..).1 found)
  · rintro ⟨some, allFit, apart, metrics⟩
    refine ⟨⟨some, fun entry present => ?_, fun _ _ => List.not_mem_nil, apart⟩, metrics⟩
    exact allFit _ _ ((NameMap.get?_eq_some_iff ..).2 present)

/-- Settings are accepted exactly if they are sound. -/
theorem isValid_iff_sound (config : Config) : config.isValid = true ↔ config.Sound := by
  rw [isValid, List.isEmpty_iff]
  exact config.issues_eq_nil_iff

/-- Settings with a single bridge. -/
def single (name : String) (settings : BridgeSettings) : Config where
  bridges := ⟨[(name, settings)], List.pairwise_singleton ..⟩
  metrics := .unset
  logging := .unset
  telemetry := .unset

theorem get?_single {name other : String} {settings found : BridgeSettings} :
    (single name settings).bridges.get? other = some found ↔ other = name ∧ found = settings := by
  rw [NameMap.get?_eq_some_iff, single, List.mem_singleton, Prod.mk.injEq]

theorem isValid_single {name : String} {settings : BridgeSettings} (sound : settings.Sound)
    (located : ∃ location, settings.location name = .ok location) :
    (single name settings).isValid = true := by
  rw [isValid, List.isEmpty_iff, issues_eq_nil_iff]
  constructor
  · exact ⟨name, settings, get?_single.2 ⟨rfl, rfl⟩⟩
  · intro other found present
    obtain ⟨rfl, rfl⟩ := get?_single.1 present
    exact ⟨sound, located⟩
  · intro first second settings others present otherPresent different
    exact absurd ((get?_single.1 present).1.trans (get?_single.1 otherPresent).1.symm) different
  · exact MetricsSettings.sound_unset

end Config

/-- The settings of a bridge that has a peer, and whose effects are applied again by a schedule. -/
def BridgeSettings.scheduled (role : Role) (reapply : ReapplySettings) : BridgeSettings :=
  { plain role with
    peerCidrs := [⟨.v4 ⟨[10, 1, 0, 0], rfl⟩, 16, by decide⟩]
    partnerUrl := "http://[::1]:8080"
    reconcile := { ReconcileSettings.unset with bridgeActivate := ⟨reapply, []⟩ } }

theorem BridgeSettings.sound_scheduled (role : Role) {reapply : ReapplySettings}
    (sound : reapply.policy.Sound) : (scheduled role reapply).Sound := by
  have parsed : Url.schemeOf "http://[::1]:8080" = .ok "http" := by
    have divided : Url.scheme? (Url.clean "http://[::1]:8080") =
        some ("http", "//[::1]:8080".toList) := by decide +kernel
    have checked : Url.checkAuthority true "[::1]:8080".toList = .ok () := rfl
    rw [Url.schemeOf, divided]
    exact congrArg (Except.map fun _ => "http") checked
  have lowest : Thresholds.Allows 2 := by decide
  constructor
  · exact ⟨'b', by simp [scheduled, plain], by decide⟩
  · exact List.cons_ne_nil _ _
  · exact .inl parsed
  · exact lowest
  · exact lowest
  · exact (by decide : Duration.ofMilliseconds 100 ≤ .ofSeconds 1)
  · exact (by decide : Duration.zero < .ofSeconds 1 ∧ Duration.ofSeconds 1 ≤ .ofSeconds 1)
  · intro name tunnel present
    rw [NameMap.get?_eq_some_iff] at present
    simp only [scheduled, plain, List.mem_cons, Prod.mk.injEq, List.not_mem_nil, or_false] at present
    rcases present with ⟨-, rfl⟩ | ⟨-, rfl⟩ <;> exact ⟨lowest, lowest⟩
  · rw [← activeTunnels_eq_one_iff]
    rfl
  · exact { ReconcileSettings.sound_unset with bridge := sound }

/-- A factor that is no number is accepted, although it is not at least one. -/
theorem Config.not_always_number :
    ¬∀ config : Config, config.isValid = true →
      ∀ name settings, config.bridges.get? name = some settings →
        1 ≤ settings.reconcile.bridgeActivate.reapply.policy.factor := by
  intro claim
  let factor : Float := 0 / 0
  let settings : BridgeSettings := .scheduled .active
    ⟨some (.ofSeconds 1), some (.ofSeconds 8), some factor⟩
  have sound : settings.Sound :=
    BridgeSettings.sound_scheduled .active ⟨by decide, by decide, .inr (by decide), by decide⟩
  have valid : (single "vpn" settings).isValid = true := isValid_single sound ⟨.empty, rfl⟩
  have atLeast : 1 ≤ factor := claim _ valid "vpn" settings (get?_single.2 ⟨rfl, rfl⟩)
  exact absurd atLeast (by decide)


end TunnelFailover
