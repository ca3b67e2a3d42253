import Hyperspace.Sessions.AbuseControls

/-!
# Where a self-service session leads

A body that both `parseSessionCreateBody` and the policy accept leads to one public host or is a
full tunnel, except that an address-to-address body may name several hosts: the policy looks at
each of them and never at how many there are.
-/

namespace Hyperspace.Sessions

open Hyperspace.Foundations

/-- One destination: a public host or everything, depending on the mode. -/
def Confined (mode : SessionMode) (cidrs : List String) : Prop :=
  ∃ d, cidrs.mapM parseIpv4Cidr = some [d] ∧
    match mode with
    | .ipToIp => d.prefixLength = 32 ∧ IsPublic d.address
    | .fullTunnel => d.address = 0 ∧ d.prefixLength = 0

/-! ### What the policy checks -/

theorem length_of_mapM {α β : Type} {f : α → Option β} {xs : List α} {ys : List β}
    (h : xs.mapM f = some ys) : ys.length = xs.length := by
  induction xs generalizing ys with
  | nil =>
    cases h
    rfl
  | cons x xs ih =>
    rw [List.mapM_cons] at h
    obtain ⟨y, -, h⟩ := Option.bind_eq_some_iff.1 h
    obtain ⟨rest, hRest, h⟩ := Option.bind_eq_some_iff.1 h
    cases h
    simp [ih hRest]

theorem isFullTunnelDestination_iff (ds : List Ipv4Cidr) :
    isFullTunnelDestination ds = true ↔
      ∃ d, ds = [d] ∧ d.address = 0 ∧ d.prefixLength = 0 := by
  unfold isFullTunnelDestination
  cases ds with
  | nil => simp
  | cons d rest => cases rest <;> simp

theorem validateDestinations_ipToIp {cidrs : List String} {config : SessionAbuseControlConfig}
    (hConfig : config.allowPrivateDestinations = false) :
    validateDestinations .ipToIp cidrs config = none ↔
      ∃ ds, cidrs.mapM parseIpv4Cidr = some ds ∧
        ∀ d ∈ ds, d.prefixLength = 32 ∧ IsPublic d.address := by
  unfold validateDestinations
  cases hRead : cidrs.mapM parseIpv4Cidr with
  | none => simp
  | some ds =>
    simp only [hConfig, Option.some.injEq, exists_eq_left']
    split
    · rename_i hWide
      simp at hWide
      grind
    · rename_i hHosts
      simp at hHosts
      simp [← isGlobalIpv4Cidr_iff]
      grind

theorem validateDestinations_fullTunnel {cidrs : List String} {config : SessionAbuseControlConfig} :
    validateDestinations .fullTunnel cidrs config = none ↔ Confined .fullTunnel cidrs := by
  unfold validateDestinations Confined
  cases hRead : cidrs.mapM parseIpv4Cidr with
  | none => simp
  | some ds =>
    simp [isFullTunnelDestination_iff]

theorem Confined.length_eq {mode : SessionMode} {cidrs : List String} (h : Confined mode cidrs) :
    cidrs.length = 1 := by
  obtain ⟨d, hRead, -⟩ := h
  exact (length_of_mapM hRead).symm

theorem confined_iff_length {mode : SessionMode} {cidrs : List String}
    {config : SessionAbuseControlConfig} (hConfig : config.allowPrivateDestinations = false)
    (h : validateDestinations mode cidrs config = none) :
    Confined mode cidrs ↔ (mode = .ipToIp → cidrs.length = 1) := by
  cases mode with
  | fullTunnel => simp [validateDestinations_fullTunnel.1 h]
  | ipToIp =>
    obtain ⟨ds, hRead, hHosts⟩ := (validateDestinations_ipToIp hConfig).1 h
    constructor
    · intro hConfined _
      exact hConfined.length_eq
    · intro hLength
      have hOne : ds.length = 1 := (length_of_mapM hRead).trans (hLength rfl)
      obtain ⟨d, rfl⟩ := List.length_eq_one_iff.1 hOne
      exact ⟨d, hRead, hHosts d (by simp)⟩

theorem Confined.validate {mode : SessionMode} {cidrs : List String} (h : Confined mode cidrs)
    (config : SessionAbuseControlConfig) : validateDestinations mode cidrs config = none := by
  cases mode with
  | fullTunnel => exact validateDestinations_fullTunnel.2 h
  | ipToIp =>
    obtain ⟨d, hRead, hHost, hPublic⟩ := h
    have hGlobal := (isGlobalIpv4Cidr_iff d.toCidr).2 hPublic
    simp [validateDestinations, hRead, hHost, hGlobal]

/-! ### Accepted bodies -/

theorem validateDestinations_of_accepted {parsed : SessionCreateParsed}
    {config : SessionAbuseControlConfig} (h : validateSessionAbusePolicy parsed config = none) :
    validateDestinations parsed.mode parsed.destinationCidrs config = none := by
  unfold validateSessionAbusePolicy at h
  split at h
  · cases h
  · assumption

theorem length_eq_one_iff {body : Json} {parsed : SessionCreateParsed}
    (h : parseSessionCreateBody body = .ok parsed) :
    parsed.destinationCidrs.length = 1 ↔
      (readStringArray body "destinationCidrs").length ≤ 1 := by
  obtain ⟨-, hCidrs, hSome⟩ := parseSessionCreateBody_ok h
  have hPos := List.length_pos_iff.2 hSome
  rw [hCidrs] at hPos ⊢
  by_cases hNone : readStringArray body "destinationCidrs" = []
  · have hLe := @length_normalizeDestinationCidrs_le _ parsed.mode hNone
    simp only [hNone, List.length_nil]
    omega
  · rw [length_normalizeDestinationCidrs hNone] at hPos ⊢
    omega

theorem word_ofValue (a : Gate.Address) : word (Ipv4.ofValue a.toNat) = a := by
  unfold word
  rw [Ipv4.value_ofValue a.isLt, BitVec.ofNat_toNat, BitVec.setWidth_eq]

theorem confined_hostText {a : Gate.Address} (h : IsPublic a) :
    Confined .ipToIp [hostText (Ipv4.ofValue a.toNat)] := by
  refine ⟨⟨⟨word (Ipv4.ofValue a.toNat), 32⟩, hostText (Ipv4.ofValue a.toNat)⟩, ?_, rfl, ?_⟩
  · simp [parseIpv4Cidr_hostText]
  · rw [word_ofValue]
    exact h

theorem confined_fullTunnel : Confined .fullTunnel ["0.0.0.0/0"] :=
  ⟨⟨⟨0, 0⟩, "0.0.0.0/0"⟩, by decide +kernel, rfl, rfl⟩

/-- An accepted body is confined exactly when it does not list several hosts for an
    address-to-address session, and whatever is confined passes. -/
theorem accepted_confined_iff {body : Json} {parsed : SessionCreateParsed}
    {config : SessionAbuseControlConfig} (hParsed : parseSessionCreateBody body = .ok parsed)
    (hConfig : config.allowPrivateDestinations = false)
    (hAccepted : validateSessionAbusePolicy parsed config = none) :
    (Confined parsed.mode parsed.destinationCidrs ↔
      (readMode body = some .ipToIp → (readStringArray body "destinationCidrs").length ≤ 1)) ∧
    (∀ parsed config, Confined parsed.mode parsed.destinationCidrs → parsed.sourceCidr = none →
      validateSessionAbusePolicy parsed config = none) ∧
    (∀ a, IsPublic a → Confined .ipToIp [hostText (Ipv4.ofValue a.toNat)]) ∧
    Confined .fullTunnel ["0.0.0.0/0"] := by
  refine ⟨?_, ?_, fun a h => confined_hostText h, confined_fullTunnel⟩
  · obtain ⟨hMode, -⟩ := parseSessionCreateBody_ok hParsed
    rw [confined_iff_length hConfig (validateDestinations_of_accepted hAccepted), hMode,
      Option.some.injEq, length_eq_one_iff hParsed]
  · intro parsed config hConfined hSource
    simp [validateSessionAbusePolicy, hConfined.validate config, hSource]

/-- A body of an address-to-address session between the gates `a` and `b`. -/
def bodyTo (destinations : List String) : Json :=
  .obj [("mode", .str "IpToIp"), ("ingressGateName", .str "a"), ("egressGateName", .str "b"),
    ("destinationCidrs", .arr (destinations.map .str))]

theorem exists_parsed {body : Json} {p : SessionCreateParsed → Bool}
    (h : (parseSessionCreateBody body).toOption.any p = true) :
    ∃ parsed, parseSessionCreateBody body = .ok parsed ∧ p parsed = true := by
  cases hParsed : parseSessionCreateBody body with
  | error e => simp [hParsed, Except.toOption] at h
  | ok parsed =>
    refine ⟨parsed, rfl, ?_⟩
    simpa [hParsed, Except.toOption] using h

/-- Two hosts pass. -/
theorem several_hosts_accepted :
    ∃ body parsed, parseSessionCreateBody body = .ok parsed ∧
      validateSessionAbusePolicy parsed defaultSessionAbuseControlConfig = none ∧
      ¬ Confined parsed.mode parsed.destinationCidrs := by
  have hAccepted : (parseSessionCreateBody (bodyTo ["1.1.1.1/32", "8.8.8.8/32"])).toOption.any
      (fun parsed =>
        (validateSessionAbusePolicy parsed defaultSessionAbuseControlConfig).isNone &&
          parsed.destinationCidrs.length = 2) = true := by decide +kernel
  obtain ⟨parsed, hParsed, hBoth⟩ := exists_parsed hAccepted
  simp only [Bool.and_eq_true, Option.isNone_iff_eq_none, decide_eq_true_eq] at hBoth
  refine ⟨_, parsed, hParsed, hBoth.1, ?_⟩
  intro hConfined
  have hOne := hConfined.length_eq
  omega

theorem one_host_confined :
    ∃ parsed, parseSessionCreateBody (bodyTo ["1.1.1.1/32"]) = .ok parsed ∧
      Confined parsed.mode parsed.destinationCidrs := by
  have hAccepted : (parseSessionCreateBody (bodyTo ["1.1.1.1/32"])).toOption.any
      (fun parsed =>
        (validateSessionAbusePolicy parsed defaultSessionAbuseControlConfig).isNone) = true := by
    decide +kernel
  obtain ⟨parsed, hParsed, hNone⟩ := exists_parsed hAccepted
  have hShort : readMode (bodyTo ["1.1.1.1/32"]) = some .ipToIp →
      (readStringArray (bodyTo ["1.1.1.1/32"]) "destinationCidrs").length ≤ 1 := by decide +kernel
  refine ⟨parsed, hParsed, ?_⟩
  exact (accepted_confined_iff hParsed rfl (Option.isNone_iff_eq_none.1 hNone)).1.2 hShort

end Hyperspace.Sessions
