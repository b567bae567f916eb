import Mathlib.Tactic
import Telemetry.Settings

/-!
# Where settings come from

A settings file counts as a whole or not at all. What it gives and what the command line gives go into
the builder of the command's client setting by setting.
-/
namespace Telemetry.Settings

namespace File

/-- A file is a document in which each entry that is known has a value of its type and range, or is not
there. -/
inductive Says (file : File) : Source → Prop
  | document (text : String) (t : Toml.Table) (h : Toml.parse? text = some t)
    (target : t.find? "target" = file.target.map .string)
    (serviceToken : t.find? "service_token" = file.serviceToken.map .string)
    (userAgent : t.find? "user_agent" = file.userAgent.map .string)
    (connectTimeout :
      t.find? "connect_timeout_secs" = file.connectTimeoutSeconds.map fun n => .integer n) :
    Says file (.bytes (Text.utf8 text))

/-- What the file at a place counts for: all that it says, or nothing if it does not say anything. -/
def CountsFor (file : File) (source : Source) : Prop :=
  file.Says source ∨ file = empty ∧ ∀ file' : File, ¬ file'.Says source

variable {key : String} {t : Toml.Table} {file : File} {source : Source}

theorem text?_eq_some_iff {v : Option String} :
    text? key t = some v ↔ t.find? key = v.map .string := by
  unfold text?
  split
  · next h => cases v <;> simp [h]
  · next s h => cases v <;> simp [h]
  · next n hstring h =>
    rw [h]
    refine iff_of_false (by simp) fun hn => ?_
    obtain ⟨s, -, rfl⟩ := Option.map_eq_some_iff.mp hn.symm
    exact hstring s rfl

theorem natural?_eq_some_iff {v : Option Nat} :
    natural? key t = some v ↔ t.find? key = v.map fun n => .integer n := by
  unfold natural?
  split
  · next h => cases v <;> simp [h]
  · next i h =>
    rw [h]
    cases v with
    | none => split_ifs <;> simp
    | some n =>
      have hint : (some (.integer i) = (some n).map fun n : Nat => Toml.Node.integer n) ↔ i = n := by
        simp
      rw [hint]
      split_ifs with hi
      · rw [Option.some.injEq, Option.some.injEq]
        omega
      · exact iff_of_false nofun (by omega)
  · next n hinteger h =>
    rw [h]
    refine iff_of_false (by simp) fun hn => ?_
    obtain ⟨m, -, rfl⟩ := Option.map_eq_some_iff.mp hn.symm
    exact hinteger m rfl

theorem ofTable?_eq_some_iff : ofTable? t = some file ↔
    t.find? "target" = file.target.map .string ∧
    t.find? "service_token" = file.serviceToken.map .string ∧
    t.find? "user_agent" = file.userAgent.map .string ∧
    t.find? "connect_timeout_secs" = file.connectTimeoutSeconds.map fun n => .integer n := by
  rw [← text?_eq_some_iff, ← text?_eq_some_iff, ← text?_eq_some_iff, ← natural?_eq_some_iff]
  obtain ⟨target, serviceToken, userAgent, connectTimeoutSeconds⟩ := file
  simp only [ofTable?, Option.pure_def, Option.bind_eq_bind, Option.bind_eq_some_iff,
    Option.some.injEq, File.mk.injEq]
  grind

theorem load_eq_ok_iff : load source = .ok file ↔ file.Says source := by
  constructor
  · intro h
    unfold load at h
    split at h
    · cases h
    · cases h
    · split at h
      · cases h
      · next text htext =>
        obtain rfl := Text.utf8_of_ofUtf8? htext
        cases hparse : parse? text with
        | none => simp [hparse] at h
        | some file' =>
          obtain rfl : file' = file := by simpa [hparse] using h
          obtain ⟨t, ht, htable⟩ := Option.bind_eq_some_iff.mp hparse
          obtain ⟨h1, h2, h3, h4⟩ := ofTable?_eq_some_iff.mp htable
          exact .document text t ht h1 h2 h3 h4
  · rintro ⟨text, t, ht, h1, h2, h3, h4⟩
    have hparse : parse? text = some file :=
      Option.bind_eq_some_iff.mpr ⟨t, ht, ofTable?_eq_some_iff.mpr ⟨h1, h2, h3, h4⟩⟩
    simp only [load, Text.ofUtf8?_utf8, hparse]

/-- A file that cannot be read, that is no document or has a wrong value counts for nothing. -/
theorem countsFor_loadOrIgnore (source : Source) : (loadOrIgnore source).1.CountsFor source := by
  cases hload : load source with
  | ok file =>
    refine .inl ?_
    have hsource : (loadOrIgnore source).1 = file := by
      cases source <;> simp_all [loadOrIgnore, load]
    exact hsource ▸ load_eq_ok_iff.mp hload
  | error fault =>
    refine .inr ⟨?_, fun file' hsays => ?_⟩
    · cases source <;> simp_all [loadOrIgnore]
    · cases hload.symm.trans (load_eq_ok_iff.mpr hsays)

end File

/-- The channel settings that a target and a port make. -/
def channel (target : String) (port : Option UInt16) : Channel.Config :=
  port.elim (.new target) (.forAddress target)

@[simp] theorem channel_none (target : String) : channel target none = .new target := rfl

@[simp] theorem channel_some (target : String) (port : UInt16) :
    channel target (some port) = .forAddress target port := by
  rw [channel, Option.elim_some]

theorem requestTimeout_channel (target : String) (port : Option UInt16) :
    (channel target port).requestTimeout = none := by
  have hnew (text : String) : (Channel.Config.new text).requestTimeout = none := rfl
  cases port with
  | none => exact hnew target
  | some port => exact hnew _

/-- Channel settings with what does not depend on the target. -/
def configure (s : Settings) (c : Channel.Config) : Channel.Config :=
  { c with
    keepAlive := none
    connectTimeout := some s.connectTimeout
    userAgent := some (s.userAgent.getD Client.Builder.defaultUserAgent) }

section Configure

variable (s : Settings) (c : Channel.Config)

@[simp] theorem address_configure : (s.configure c).address = c.address := rfl

@[simp] theorem useTls_configure : (s.configure c).useTls = c.useTls := rfl

@[simp] theorem requestTimeout_configure : (s.configure c).requestTimeout = c.requestTimeout := rfl

end Configure

/-- The builder of settings with everything in its place. -/
def written (s : Settings) : Client.Builder :=
  ⟨s.configure (channel s.target s.port), s.serviceToken⟩

theorem builder_eq (s : Settings) : s.builder = s.written := by
  obtain ⟨target, port, serviceToken, userAgent, connectTimeout⟩ := s
  cases port with
  | none =>
    simp only [builder, written, Client.Builder.new, channel_none]
    generalize Channel.Config.new target = c
    cases userAgent <;> cases serviceToken <;> rfl
  | some port =>
    simp only [builder, written, Client.Builder.forAddress, channel_some]
    generalize Channel.Config.forAddress target port = c
    cases userAgent <;> cases serviceToken <;> rfl

/-- A command waits for its reply as long as it takes. -/
theorem requestTimeout_builder (s : Settings) : s.builder.config.requestTimeout = none := by
  rw [builder_eq, written, requestTimeout_configure, requestTimeout_channel]

end Telemetry.Settings
