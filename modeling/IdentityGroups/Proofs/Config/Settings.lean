import Mathlib
import IdentityGroups.Config.Environment
import IdentityGroups.Proofs.Json.Decode
import IdentityGroups.Proofs.Text.Numeral

/-! # Which environments are accepted

A configuration is read from an environment just when each of its variables admits what it is set to, and holds
then what the variables say. Otherwise the first variable that does not admit its value is at fault.
-/

namespace IdentityGroups.Config

open Text.Numeral (Denotes FailsBy rendering)

inductive Variable where
  | metricsPort
  | resyncInterval
  | address
  | token
  | httpTimeout
  | bundle
  deriving DecidableEq, Repr

namespace Variable

def name : Variable → String
  | metricsPort => "METRICS_PORT"
  | resyncInterval => "RESYNC_INTERVAL_SECS"
  | address => "VAULT_ADDR"
  | token => "VAULT_TOKEN"
  | httpTimeout => "VAULT_HTTP_TIMEOUT_SECS"
  | bundle => "VAULT_CACERT"

def inOrder : List Variable := [metricsPort, resyncInterval, address, token, httpTimeout, bundle]

end Variable

def IsNumber (least largest : Nat) (value : Option String) : Prop :=
  ∀ raw, value = some raw → ∃ n, least ≤ n ∧ n ≤ largest ∧ Denotes raw n

/-- What a variable may be, where `none` is a variable that is unset. -/
def Variable.Admits (files : Files) : Variable → Option String → Prop
  | metricsPort, value => IsNumber 0 65535 value
  | resyncInterval, value | httpTimeout, value => IsNumber 1 (2 ^ 64 - 1) value
  | address, value | token, value => ∃ text, value = some text ∧ text ≠ ""
  | bundle, value => ∀ path, value = some path → path ≠ "" → ∃ content, files path = .ok content

/-- What is said of a variable that does not admit its value. -/
inductive Blames (files : Files) : Variable → Option String → Fault → Prop
  | metricsPort {raw : String} {why : Text.Numeral.Fault} (h : FailsBy 65535 raw why) :
      Blames files .metricsPort (some raw) (.badPort raw why)
  | resyncInterval {raw : String} (h : ¬ IsNumber 1 (2 ^ 64 - 1) (some raw)) :
      Blames files .resyncInterval (some raw) (.badResync raw)
  | address {value : Option String} (h : value = none ∨ value = some "") : Blames files .address value .noAddress
  | token {value : Option String} (h : value = none ∨ value = some "") : Blames files .token value .noToken
  | httpTimeout {raw : String} {why : Text.Numeral.Fault} (h : FailsBy (2 ^ 64 - 1) raw why) :
      Blames files .httpTimeout (some raw) (.badTimeout raw why)
  | zeroTimeout {raw : String} (h : Denotes raw 0) : Blames files .httpTimeout (some raw) .zeroTimeout
  | bundle {path : String} {fault : FileFault} (hne : path ≠ "") (h : files path = .error fault) :
      Blames files .bundle (some path) (.unreadableBundle path fault)

def NumberOf (value : Option String) (default n : Nat) : Prop :=
  (value = none ∧ n = default) ∨ ∃ raw, value = some raw ∧ Denotes raw n

/-- The configuration holds what the variables say that may be at fault. -/
structure Gives (env : Environment) (files : Files) (c : Settings) : Prop where
  metricsPort : NumberOf (env "METRICS_PORT") 8080 c.metricsPort
  resyncSeconds : NumberOf (env "RESYNC_INTERVAL_SECS") 300 c.resyncSeconds
  timeoutSeconds : NumberOf (env "VAULT_HTTP_TIMEOUT_SECS") 15 c.vault.timeoutSeconds
  addr : env "VAULT_ADDR" = some c.vault.addr
  token : env "VAULT_TOKEN" = some c.vault.token
  caBundle : ∀ path, env "VAULT_CACERT" = some path → path ≠ "" →
    ∃ content, files path = .ok content ∧ c.vault.caBundle = some content
  noBundle : env "VAULT_CACERT" = none ∨ env "VAULT_CACERT" = some "" → c.vault.caBundle = none

variable {env : Environment} {files : Files} {v : Variable} {value : Option String} {fault : Fault}

/-! ## One variable -/

theorem not_failsBy_of_number {least largest : Nat} {raw : String} {why : Text.Numeral.Fault}
    (h : IsNumber least largest (some raw)) : ¬ FailsBy largest raw why := by
  intro hfails
  obtain ⟨n, -, hn, hdenotes⟩ := h raw rfl
  have hparse := Text.Numeral.parse_of_denotes hdenotes hn
  rw [Text.Numeral.parse_of_failsBy hfails] at hparse
  cases hparse

theorem number_none (least largest : Nat) : IsNumber least largest none := by
  rintro raw ⟨⟩

theorem number_some {least largest n : Nat} {raw : String} (hleast : least ≤ n) (hn : n ≤ largest)
    (h : Denotes raw n) : IsNumber least largest (some raw) := by
  rintro raw' ⟨⟩
  exact ⟨n, hleast, hn, h⟩

theorem not_number_of_zero {largest : Nat} {raw : String} (h : Denotes raw 0) :
    ¬ IsNumber 1 largest (some raw) := by
  intro hnumber
  obtain ⟨n, hn, -, hdenotes⟩ := hnumber raw rfl
  have := h.unique hdenotes
  omega

theorem Blames.not_admits (h : Blames files v value fault) : ¬ v.Admits files value := by
  intro hadmits
  cases h with
  | metricsPort h => exact not_failsBy_of_number hadmits h
  | resyncInterval h => exact h hadmits
  | address h | token h =>
    obtain ⟨text, hvalue, hne⟩ := hadmits
    rcases h with rfl | rfl
    · cases hvalue
    · exact hne (Option.some.inj hvalue).symm
  | httpTimeout h => exact not_failsBy_of_number hadmits h
  | zeroTimeout h => exact not_number_of_zero h hadmits
  | bundle hne h =>
    obtain ⟨content, hcontent⟩ := hadmits _ rfl hne
    rw [h] at hcontent
    cases hcontent

/-! ## The readers of the variables -/

/-- A value that the variable admits is read as `P` says, and for any other the variable is blamed. -/
def Reads {α : Type} (files : Files) (v : Variable) (value : Option String) (P : α → Prop) : Except Fault α → Prop
  | .ok a => v.Admits files value ∧ P a
  | .error fault => Blames files v value fault

theorem reads_port : Reads files .metricsPort (env "METRICS_PORT") (NumberOf (env "METRICS_PORT") 8080) (port env) := by
  unfold port
  cases env "METRICS_PORT" with
  | none => exact ⟨number_none _ _, .inl ⟨rfl, rfl⟩⟩
  | some raw =>
    cases hparse : Text.Numeral.parse Text.Numeral.largest16 raw with
    | error why =>
      simp only [hparse]
      exact .metricsPort (Text.Numeral.parse_eq_error_iff.1 hparse)
    | ok n =>
      simp only [hparse]
      obtain ⟨hdenotes, hn⟩ := Text.Numeral.parse_eq_ok_iff.1 hparse
      exact ⟨number_some (Nat.zero_le n) hn hdenotes, .inr ⟨raw, rfl, hdenotes⟩⟩

/-- A text is read as a number in range but zero, or as zero, or fails. -/
theorem parse_cases (largest : Nat) (raw : String) :
    (∃ n, Text.Numeral.parse largest raw = .ok n ∧ n ≠ 0 ∧ Denotes raw n ∧ IsNumber 1 largest (some raw)) ∨
      (Text.Numeral.parse largest raw = .ok 0 ∧ Denotes raw 0) ∨
      ∃ why, Text.Numeral.parse largest raw = .error why ∧ FailsBy largest raw why := by
  cases hparse : Text.Numeral.parse largest raw with
  | error why => exact .inr (.inr ⟨why, rfl, Text.Numeral.parse_eq_error_iff.1 hparse⟩)
  | ok n =>
    obtain ⟨hdenotes, hn⟩ := Text.Numeral.parse_eq_ok_iff.1 hparse
    rcases Nat.eq_zero_or_pos n with rfl | hpos
    · exact .inr (.inl ⟨rfl, hdenotes⟩)
    · exact .inl ⟨n, rfl, hpos.ne', hdenotes, number_some hpos hn hdenotes⟩

theorem reads_resync : Reads files .resyncInterval (env "RESYNC_INTERVAL_SECS")
    (NumberOf (env "RESYNC_INTERVAL_SECS") 300) (resync env) := by
  unfold resync
  cases env "RESYNC_INTERVAL_SECS" with
  | none => exact ⟨number_none _ _, .inl ⟨rfl, rfl⟩⟩
  | some raw =>
    rcases parse_cases Text.Numeral.largest64 raw with ⟨n, hparse, hne, hdenotes, hnumber⟩ |
      ⟨hparse, hzero⟩ | ⟨why, hparse, hfails⟩
    · simp only [hparse, if_neg hne]
      exact ⟨hnumber, .inr ⟨raw, rfl, hdenotes⟩⟩
    · simp only [hparse, if_pos]
      exact .resyncInterval (not_number_of_zero hzero)
    · simp only [hparse]
      exact .resyncInterval fun h => not_failsBy_of_number h hfails

theorem reads_timeout : Reads files .httpTimeout (env "VAULT_HTTP_TIMEOUT_SECS")
    (NumberOf (env "VAULT_HTTP_TIMEOUT_SECS") 15) (timeout env) := by
  unfold timeout
  cases env "VAULT_HTTP_TIMEOUT_SECS" with
  | none => exact ⟨number_none _ _, .inl ⟨rfl, rfl⟩⟩
  | some raw =>
    rcases parse_cases Text.Numeral.largest64 raw with ⟨n, hparse, hne, hdenotes, hnumber⟩ |
      ⟨hparse, hzero⟩ | ⟨why, hparse, hfails⟩
    · simp only [hparse, if_neg hne]
      exact ⟨hnumber, .inr ⟨raw, rfl, hdenotes⟩⟩
    · simp only [hparse, if_pos]
      exact .zeroTimeout hzero
    · simp only [hparse]
      exact .httpTimeout hfails

theorem filled?_eq_none_iff {k : String} : filled? env k = none ↔ env k = none ∨ env k = some "" := by
  rw [filled?, Option.filter_eq_none_iff]
  cases env k <;> simp

theorem filled?_eq_some_iff {k s : String} : filled? env k = some s ↔ env k = some s ∧ s ≠ "" := by
  rw [filled?, Option.filter_eq_some_iff]
  simp

/-- A variable that has to be set is read as it stands. -/
theorem reads_required {required : Fault}
    (hadmits : (∃ text, env v.name = some text ∧ text ≠ "") → v.Admits files (env v.name))
    (hblames : env v.name = none ∨ env v.name = some "" → Blames files v (env v.name) required) :
    Reads files v (env v.name) (fun s => env v.name = some s) (require required (filled? env v.name)) := by
  cases h : filled? env v.name with
  | none => exact hblames (filled?_eq_none_iff.1 h)
  | some s =>
    have hs := filled?_eq_some_iff.1 h
    exact ⟨hadmits ⟨s, hs⟩, hs.1⟩

theorem reads_address : Reads files .address (env "VAULT_ADDR") (fun s => env "VAULT_ADDR" = some s)
    (require .noAddress (filled? env "VAULT_ADDR")) := reads_required (fun h => h) .address

theorem reads_token : Reads files .token (env "VAULT_TOKEN") (fun s => env "VAULT_TOKEN" = some s)
    (require .noToken (filled? env "VAULT_TOKEN")) := reads_required (fun h => h) .token

theorem reads_bundle : Reads files .bundle (env "VAULT_CACERT")
    (fun o => (∀ path, env "VAULT_CACERT" = some path → path ≠ "" →
        ∃ content, files path = .ok content ∧ o = some content) ∧
      (env "VAULT_CACERT" = none ∨ env "VAULT_CACERT" = some "" → o = none)) (bundle env files) := by
  unfold bundle
  cases h : filled? env "VAULT_CACERT" with
  | none =>
    have hunfilled : ∀ path, env "VAULT_CACERT" = some path → ¬ path ≠ "" := by
      intro path hpath hne
      rw [filled?_eq_some_iff.2 ⟨hpath, hne⟩] at h
      cases h
    exact ⟨fun path hpath hne => absurd hne (hunfilled path hpath),
      fun path hpath hne => absurd hne (hunfilled path hpath), fun _ => rfl⟩
  | some path =>
    obtain ⟨henv, hne⟩ := filled?_eq_some_iff.1 h
    rw [henv]
    cases hfile : files path with
    | error fault =>
      simp only [hfile]
      exact .bundle hne hfile
    | ok content =>
      simp only [hfile]
      refine ⟨?_, ?_, ?_⟩
      · rintro path' ⟨⟩ -
        exact ⟨content, hfile⟩
      · rintro path' ⟨⟩ -
        exact ⟨content, hfile, rfl⟩
      · rintro (hnone | hempty)
        · cases hnone
        · exact absurd (Option.some.inj hempty) hne

/-! ## The first fault -/

def fault? {ε α : Type} : Except ε α → Option ε
  | .error e => some e
  | .ok _ => none

theorem fault?_eq_none_iff {ε α : Type} {x : Except ε α} : fault? x = none ↔ ∃ a, x = .ok a := by
  cases x with
  | error e => simp [fault?]
  | ok a => simp [fault?]

theorem fault?_eq_some_iff {ε α : Type} {x : Except ε α} {e : ε} : fault? x = some e ↔ x = .error e := by
  cases x with
  | error e' => simp [fault?]
  | ok a => simp [fault?]

/-- A fault comes from the first of two steps, or else from the second. -/
theorem fault?_bind {ε α β : Type} {o : Option ε} (x : Except ε α) {f : α → Except ε β}
    (h : ∀ a, fault? (f a) = o) : fault? (x >>= f) = (fault? x).or o := by
  cases x with
  | error e => rfl
  | ok a => exact h a

theorem fault?_bind_pure {ε α β : Type} (x : Except ε α) (f : α → β) :
    fault? (x >>= fun a => pure (f a)) = fault? x := by
  cases x <;> rfl

def faultOf (env : Environment) (files : Files) : Variable → Option Fault
  | .metricsPort => fault? (port env)
  | .resyncInterval => fault? (resync env)
  | .address => fault? (require .noAddress (filled? env "VAULT_ADDR"))
  | .token => fault? (require .noToken (filled? env "VAULT_TOKEN"))
  | .httpTimeout => fault? (timeout env)
  | .bundle => fault? (bundle env files)

theorem fault?_settings (env : Environment) (files : Files) :
    fault? (settings env files) = Variable.inOrder.findSome? (faultOf env files) := by
  have hvault : fault? (vaultSettings env files) = (faultOf env files .address).or
      ((faultOf env files .token).or ((faultOf env files .httpTimeout).or (faultOf env files .bundle))) :=
    fault?_bind _ fun _ => fault?_bind _ fun _ => fault?_bind _ fun _ => fault?_bind_pure _ _
  have hall : fault? (settings env files) = (faultOf env files .metricsPort).or
      ((faultOf env files .resyncInterval).or (fault? (vaultSettings env files))) :=
    fault?_bind _ fun _ => fault?_bind _ fun _ => fault?_bind_pure _ _
  rw [hall, hvault]
  simp only [Variable.inOrder, List.findSome?_cons, List.findSome?_nil]
  cases faultOf env files .metricsPort <;> cases faultOf env files .resyncInterval <;>
    cases faultOf env files .address <;> cases faultOf env files .token <;>
    cases faultOf env files .httpTimeout <;> cases faultOf env files .bundle <;> rfl

theorem Reads.blames_or_admits {α : Type} {P : α → Prop} {x : Except Fault α} (h : Reads files v value P x) :
    (∀ fault, fault? x = some fault → Blames files v value fault) ∧ (fault? x = none ↔ v.Admits files value) := by
  cases x with
  | error e =>
    have hblames : Blames files v value e := h
    exact ⟨fun fault hf => Option.some.inj hf ▸ hblames, by simpa [fault?] using hblames.not_admits⟩
  | ok a => exact ⟨fun fault hf => (Option.some_ne_none _ hf.symm).elim, by simpa [fault?] using h.1⟩

theorem faultOf_cases (env : Environment) (files : Files) (v : Variable) :
    (∀ fault, faultOf env files v = some fault → Blames files v (env v.name) fault) ∧
      (faultOf env files v = none ↔ v.Admits files (env v.name)) := by
  cases v with
  | metricsPort => exact reads_port.blames_or_admits
  | resyncInterval => exact reads_resync.blames_or_admits
  | address => exact reads_address.blames_or_admits
  | token => exact reads_token.blames_or_admits
  | httpTimeout => exact reads_timeout.blames_or_admits
  | bundle => exact reads_bundle.blames_or_admits

theorem gives_of_settings {c : Settings} (h : settings env files = .ok c) : Gives env files c := by
  obtain ⟨metricsPort, hport, h⟩ := bind_eq_ok_iff.1 h
  obtain ⟨resyncSeconds, hresync, h⟩ := bind_eq_ok_iff.1 h
  obtain ⟨vault, hvault, h⟩ := bind_eq_ok_iff.1 h
  cases h
  obtain ⟨addr, haddr, hvault⟩ := bind_eq_ok_iff.1 hvault
  obtain ⟨token, htoken, hvault⟩ := bind_eq_ok_iff.1 hvault
  obtain ⟨timeoutSeconds, htimeout, hvault⟩ := bind_eq_ok_iff.1 hvault
  obtain ⟨caBundle, hbundle, hvault⟩ := bind_eq_ok_iff.1 hvault
  cases hvault
  have hports : Reads files .metricsPort _ _ (port env) := reads_port
  have hresyncs : Reads files .resyncInterval _ _ (resync env) := reads_resync
  have haddrs : Reads files .address _ _ (require .noAddress (filled? env "VAULT_ADDR")) := reads_address
  have htokens : Reads files .token _ _ (require .noToken (filled? env "VAULT_TOKEN")) := reads_token
  have htimeouts : Reads files .httpTimeout _ _ (timeout env) := reads_timeout
  have hbundles : Reads files .bundle _ _ (bundle env files) := reads_bundle
  rw [hport] at hports
  rw [hresync] at hresyncs
  rw [haddr] at haddrs
  rw [htoken] at htokens
  rw [htimeout] at htimeouts
  rw [hbundle] at hbundles
  exact ⟨hports.2, hresyncs.2, htimeouts.2, haddrs.2, htokens.2, hbundles.2.1, hbundles.2.2⟩

/-! ## Messages -/

def Fault.reason? : Fault → Option Text.Numeral.Fault
  | .badPort _ why | .badTimeout _ why => some why
  | _ => none

def Mentions (text part : String) : Prop := ∃ lead trail, text = lead ++ part ++ trail

theorem Mentions.append {text part : String} (h : Mentions text part) (more : String) :
    Mentions (text ++ more) part := by
  obtain ⟨lead, trail, rfl⟩ := h
  exact ⟨lead, trail ++ more, String.append_assoc⟩

/-- What is said of a variable names it. -/
theorem Blames.mentions (h : Blames files v value fault) : Mentions fault.message v.name := by
  cases h with
  | @metricsPort raw why h =>
    have hlead : Mentions "Invalid METRICS_PORT '" "METRICS_PORT" := ⟨"Invalid ", " '", by decide⟩
    exact ((hlead.append raw).append "': ").append why.message
  | @resyncInterval raw h =>
    have hlead : Mentions "Invalid RESYNC_INTERVAL_SECS '" "RESYNC_INTERVAL_SECS" := ⟨"Invalid ", " '", by decide⟩
    exact (hlead.append raw).append "'"
  | address h => exact ⟨"set ", " to the Vault server URL", by decide⟩
  | token h => exact ⟨"set ", " for Vault authentication", by decide⟩
  | @httpTimeout raw why h =>
    have hlead : Mentions "Invalid VAULT_HTTP_TIMEOUT_SECS '" "VAULT_HTTP_TIMEOUT_SECS" :=
      ⟨"Invalid ", " '", by decide⟩
    exact ((hlead.append raw).append "': ").append why.message
  | zeroTimeout h => exact ⟨"", " must be greater than 0", by decide⟩
  | @bundle path fault hne h =>
    have hlead : Mentions "Failed to read VAULT_CACERT " "VAULT_CACERT" := ⟨"Failed to read ", " ", by decide⟩
    exact ((hlead.append path).append ": ").append fault.message

theorem mentions_reason {why : Text.Numeral.Fault} (h : fault.reason? = some why) :
    Mentions fault.message why.message := by
  have hlast (lead : String) : Mentions (lead ++ why.message) why.message := ⟨lead, "", String.append_empty.symm⟩
  cases fault with
  | badPort raw why' =>
    cases h
    exact hlast _
  | badTimeout raw why' =>
    cases h
    exact hlast _
  | _ => cases h

/-- An environment is accepted just when every variable admits what it is set to, and gives then the numbers and
texts that the variables say; a numeral says one number, whatever zeros and sign stand before it. Otherwise the
first variable in the order of reading that does not admit its value is at fault, and is named, with the reason. -/
theorem settings_exact (env : Environment) (files : Files) :
    ((∃ c, settings env files = .ok c) ↔ ∀ v : Variable, v.Admits files (env v.name)) ∧
    (∀ c, settings env files = .ok c → Gives env files c) ∧
    (∀ signed zeros n m, Denotes (rendering signed zeros n) m ↔ m = n) ∧
    ∀ fault, settings env files = .error fault → ∃ before v later, Variable.inOrder = before ++ v :: later ∧
      (∀ w ∈ before, w.Admits files (env w.name)) ∧ ¬ v.Admits files (env v.name) ∧
      Blames files v (env v.name) fault ∧ Mentions fault.message v.name ∧
      ∀ why, fault.reason? = some why → Mentions fault.message why.message := by
  have hcases := faultOf_cases env files
  refine ⟨?accepted, fun c => gives_of_settings, fun signed zeros n m => ?numeral, fun fault hf => ?rejected⟩
  case accepted =>
    rw [← fault?_eq_none_iff, fault?_settings, List.findSome?_eq_none_iff]
    constructor
    · intro h v
      exact (hcases v).2.1 (h v (by cases v <;> decide))
    · intro h v _
      exact (hcases v).2.2 (h v)
  case numeral =>
    have hn := Text.Numeral.denotes_rendering signed zeros n
    exact ⟨fun hm => hm.unique hn, fun hm => hm ▸ hn⟩
  case rejected =>
    rw [← fault?_eq_some_iff, fault?_settings, List.findSome?_eq_some_iff] at hf
    obtain ⟨before, v, later, horder, hfault, hbefore⟩ := hf
    have hblames := (hcases v).1 fault hfault
    exact ⟨before, v, later, horder, fun w hw => (hcases w).2.1 (hbefore w hw), hblames.not_admits, hblames,
      hblames.mentions, fun _ => mentions_reason⟩

/-! Zeros make a numeral longer than any number in range; the largest number of seconds is in range. -/

def padded : Environment := fun k =>
  [("METRICS_PORT", "+0000000000000000000000009090"), ("VAULT_ADDR", "http://vault:8200"), ("VAULT_TOKEN", "root"),
    ("VAULT_HTTP_TIMEOUT_SECS", "18446744073709551615"), ("VAULT_CACERT", "")].lookup k

theorem settings_exact_padded : ∃ c, settings padded (.flat []) = .ok c ∧ c.metricsPort = 9090 ∧
    c.resyncSeconds = 300 ∧ c.vault.timeoutSeconds = 2 ^ 64 - 1 := by
  obtain ⟨haccepted, hgives, hnumeral, -⟩ := settings_exact padded (.flat [])
  have hnumber {least largest n : Nat} (signed : Bool) (zeros : Nat) (hleast : least ≤ n) (hn : n ≤ largest) :
      IsNumber least largest (some (rendering signed zeros n)) :=
    number_some hleast hn ((hnumeral signed zeros n n).2 rfl)
  have hport : padded "METRICS_PORT" = some (rendering true 24 9090) := by decide +kernel
  have htimeout : padded "VAULT_HTTP_TIMEOUT_SECS" = some (rendering false 0 (2 ^ 64 - 1)) := by decide +kernel
  have hadmits : ∀ v : Variable, v.Admits (.flat []) (padded v.name) := by
    intro v
    cases v with
    | metricsPort => exact hport ▸ hnumber true 24 (by decide) (by decide)
    | resyncInterval => exact number_none _ _
    | address => exact ⟨"http://vault:8200", rfl, by decide⟩
    | token => exact ⟨"root", rfl, by decide⟩
    | httpTimeout => exact htimeout ▸ hnumber false 0 (by decide) (by decide)
    | bundle =>
      intro path hpath hne
      exact absurd (Option.some.inj hpath).symm hne
  obtain ⟨c, hc⟩ := haccepted.2 hadmits
  obtain ⟨hp, hr, ht, -⟩ := hgives c hc
  refine ⟨c, hc, ?_, ?_, ?_⟩
  · obtain ⟨hnone, -⟩ | ⟨raw, hraw, hdenotes⟩ := hp
    · cases hnone
    · cases hport.symm.trans hraw
      exact (hnumeral _ _ _ _).1 hdenotes
  · obtain ⟨-, hdefault⟩ | ⟨raw, hraw, -⟩ := hr
    · exact hdefault
    · cases hraw
  · obtain ⟨hnone, -⟩ | ⟨raw, hraw, hdenotes⟩ := ht
    · cases hnone
    · cases htimeout.symm.trans hraw
      exact (hnumeral _ _ _ _).1 hdenotes

example : settings (fun k => if k = "VAULT_HTTP_TIMEOUT_SECS" then some "18446744073709551616x" else padded k)
    (.flat []) = .error (.badTimeout "18446744073709551616x" .overflow) := by decide +kernel

end IdentityGroups.Config
