import Telemetry.Proofs.Arguments
import Telemetry.Proofs.Channel.Address
import Telemetry.Proofs.Environment.File
import Telemetry.Proofs.Program.Command

/-!
# Where a command's settings come from

The target and the token are what the command line gives, or else the environment, or else the
environment file, or else the settings file. The user agent and the time for connecting come from the
settings file alone, and the port from the command line alone.
-/
namespace Telemetry.Program

open Arguments (text?)

/-- All that settings may come from: the command line, the environment, the entries of the environment
file, and what the settings file counts for. -/
structure Sources where
  args : List String
  env : Environment
  entries : List (String × String)
  file : Settings.File

namespace Sources

/-- The value of an option, or else of the variable that stands for it. -/
def value? (s : Sources) (o : Arguments.ValueOption) (name : String) : Option String :=
  ((text? o s.args).or (s.env.get? name)).or (Entries.get? name s.entries)

def target (s : Sources) : String :=
  ((s.value? .target Environment.targetName).or s.file.target).getD Settings.defaultTarget

def serviceToken (s : Sources) : Option String :=
  (s.value? .token Environment.tokenName).or s.file.serviceToken

/-- A builder has its settings from sources. A port on the command line takes the place of the one that
the target has, wherever the target comes from. -/
structure Settle (s : Sources) (b : Client.Builder) : Prop where
  serviceToken : b.serviceToken = s.serviceToken
  userAgent : b.config.userAgent = some (s.file.userAgent.getD Client.Builder.defaultUserAgent)
  connectTimeout :
    b.config.connectTimeout = some (.ofSeconds (s.file.connectTimeoutSeconds.getD 10))
  keepAlive : b.config.keepAlive = none
  requestTimeout : b.config.requestTimeout = none
  noPort : text? .port s.args = none →
    b.config.address = (Channel.Config.new s.target).address ∧
      b.config.useTls = (Channel.Config.new s.target).useTls
  port : ∀ text, text? .port s.args = some text → ∃ port, Arguments.readPort text = .ok port ∧
    b.config.address = (Channel.Config.forAddress s.target port).address ∧
      b.config.useTls = (Channel.Config.forAddress s.target port).useTls ∧
      ∀ site : Channel.Site, site.WellFormed → s.target = .ofList site.text →
        b.config.address = .ofList (site.withPort port).text ∧
          (b.config.useTls = true ↔ site.lowerScheme = "https".toList)

variable {args : List String} {env loaded : Environment} {entries : List (String × String)}
  {a : Arguments}

theorem value?_eq (file : Settings.File)
    (hloaded : ∀ name, loaded.get? name = (env.get? name).or (Entries.get? name entries))
    (o : Arguments.ValueOption) (name : String) :
    (text? o args).or (loaded.get? name) = value? ⟨args, env, entries, file⟩ o name := by
  rw [hloaded, ← Option.or_assoc]
  rfl

/-- Settings that are resolved after a command line was read. -/
theorem settle_resolve (file : Settings.File)
    (hloaded : ∀ name, loaded.get? name = (env.get? name).or (Entries.get? name entries))
    (hgiven : Arguments.Given loaded args a) :
    Settle ⟨args, env, entries, file⟩ (Settings.resolve a.target a.port a.token file).builder := by
  have htarget : a.target = value? ⟨args, env, entries, file⟩ .target Environment.targetName :=
    hgiven.target.trans (value?_eq file hloaded ..)
  have htoken : a.token = value? ⟨args, env, entries, file⟩ .token Environment.tokenName :=
    hgiven.token.trans (value?_eq file hloaded ..)
  have hresolved : Settings.resolve a.target a.port a.token file =
      ⟨target ⟨args, env, entries, file⟩, a.port, serviceToken ⟨args, env, entries, file⟩,
        file.userAgent, .ofSeconds (file.connectTimeoutSeconds.getD 10)⟩ := by
    rw [htarget, htoken]
    rfl
  have hgivenPort := hgiven.port
  rw [hresolved, Settings.builder_eq, Settings.written]
  constructor
  case serviceToken => rfl
  case userAgent => rfl
  case connectTimeout => rfl
  case keepAlive => rfl
  case requestTimeout =>
    rw [Settings.requestTimeout_configure, Settings.requestTimeout_channel]
  case noPort =>
    intro hnone
    rw [hnone] at hgivenPort
    simp [Option.map_eq_none_iff.mp hgivenPort]
  case port =>
    intro text htext
    rw [htext] at hgivenPort
    obtain ⟨port, hport, hread⟩ := Option.map_eq_some_iff.mp hgivenPort
    refine ⟨port, hread.symm, by simp [hport], by simp [hport], fun site hsite hsiteText => ?_⟩
    simp only [hport, hsiteText, Settings.address_configure, Settings.useTls_configure,
      Settings.channel_some, ← hsite.toList_address, String.ofList_toList, hsite.useTls_iff, and_self]

end Sources

/-- A command line that can be read, with an environment file that is well formed, is run with a builder
that has each setting from the first source that gives it. All that a run does, and all that a process
shows, is what that builder makes of the network. -/
theorem execute_settles {args : List String} {env : Environment} {environmentFile : Option String}
    {entries : List (String × String)} {readable : Arguments}
    (hentries : Environment.File.entriesIfGiven? env environmentFile = some entries)
    (hreadable : Arguments.parse env args = .ok readable) (source : Settings.Source) :
    ∃ loaded arguments,
      environmentFile.elim (some env) (fun text => Environment.File.load? text env) = some loaded ∧
      Arguments.parse loaded args = .ok arguments ∧
      (∃ file : Settings.File, file.CountsFor source ∧
        Sources.Settle ⟨args, env, entries, file⟩ (settings source arguments).builder) ∧
      (∀ color home network,
        Command.Ends color (settings source arguments).builder arguments.command network
          (run color home source network arguments).result
          (run color home source network arguments).activity) ∧
      ∀ subscriber home network, Log.Filter.isReadable loaded.log? = true →
        Command.Shows (settings source arguments).builder arguments.command network
          (subscriber (filter loaded arguments.verbose) (run false home source network arguments).log)
          (run false home source network arguments).result
          (execute subscriber args env environmentFile home source network) := by
  obtain ⟨loaded, hload, hloaded⟩ := Environment.File.exists_load?_of_given hentries
  obtain ⟨a, hparse⟩ := Arguments.exists_parse_of_parse hreadable loaded
  have hsettle := Sources.settle_resolve (Settings.File.loadOrIgnore source).1 hloaded
    (Arguments.given_of_parse hparse)
  refine ⟨loaded, a, hload, hparse, ⟨_, Settings.File.countsFor_loadOrIgnore source, hsettle⟩,
    fun color home network => Command.ends_run color home source network a, ?_⟩
  intro subscriber home network hlog
  have hexecute : execute subscriber args env environmentFile home source network =
      executeCommand subscriber a loaded home source network := by
    simp only [execute, hload, hparse]
  rw [hexecute]
  exact Command.shows_executeCommand subscriber a hlog home source network

/-- The target comes from the environment file, the port from the command line, the token from the
environment and the time for connecting from the settings file. -/
def sampleSources (file : Settings.File) : Sources where
  args := ["--port", "4000", "stats", "--json"]
  env := [("ANALYTICS_SERVICE_TOKEN", "e")]
  entries := [("ANALYTICS_TARGET", "HTTPS://a.example:1")]
  file := file

def sampleSite : Channel.Site := ⟨some "HTTPS".toList, "a.example".toList, some "1".toList⟩

def sampleFile : Settings.Source := .bytes (Text.utf8 "target = \"b\"\nconnect_timeout_secs = 3\n")

def sampleArguments : Arguments :=
  ⟨.stats true, some "HTTPS://a.example:1", some 4000, some "e", false⟩

theorem sampleSources_settle :
    (settings sampleFile sampleArguments).builder.config.address = "https://a.example:4000" ∧
      (settings sampleFile sampleArguments).builder.config.connectTimeout = some (.ofSeconds 3) ∧
      (settings sampleFile sampleArguments).builder.serviceToken = some "e" ∧
      ∃ file : Settings.File, file.CountsFor sampleFile ∧
        (sampleSources file).Settle (settings sampleFile sampleArguments).builder := by
  have hentries : Environment.File.entriesIfGiven? [("ANALYTICS_SERVICE_TOKEN", "e")]
      (some "ANALYTICS_TARGET=HTTPS://a.example:1") =
        some [("ANALYTICS_TARGET", "HTTPS://a.example:1")] := by decide +kernel
  have hreadable : Arguments.parse [("ANALYTICS_SERVICE_TOKEN", "e")]
      ["--port", "4000", "stats", "--json"] =
        .ok ⟨.stats true, none, some 4000, some "e", false⟩ := by decide +kernel
  obtain ⟨loaded, arguments, hload, hparse, ⟨file, hcounts, hsettle⟩, -, -⟩ :=
    execute_settles hentries hreadable sampleFile
  obtain rfl : [("ANALYTICS_SERVICE_TOKEN", "e"), ("ANALYTICS_TARGET", "HTTPS://a.example:1")] =
      loaded := Option.some.inj ((by decide +kernel : _ = some _).symm.trans hload)
  obtain rfl : sampleArguments = arguments :=
    Except.ok.inj ((by decide +kernel : _ = Except.ok _).symm.trans hparse)
  have hfile : Settings.File.load sampleFile = .ok ⟨some "b", none, none, some 3⟩ := by decide +kernel
  obtain hsays | ⟨-, hnone⟩ := hcounts
  · obtain rfl : _ = file :=
      Except.ok.inj (hfile.symm.trans (Settings.File.load_eq_ok_iff.mpr hsays))
    refine ⟨?_, hsettle.connectTimeout, hsettle.serviceToken, _, .inl hsays, hsettle⟩
    have htext : text? .port ["--port", "4000", "stats", "--json"] = some "4000" := by decide
    have hport : Arguments.readPort "4000" = .ok 4000 := by decide
    obtain ⟨port, hread, -, -, hsite⟩ := hsettle.port "4000" htext
    obtain rfl : 4000 = port := Except.ok.inj (hport.symm.trans hread)
    have hwellFormed : sampleSite.WellFormed :=
      ⟨fun _ h => Option.some.inj h ▸ ⟨by decide, List.all_iff_forall_prop.mp (by decide)⟩,
        .inl ⟨by decide, List.all_iff_forall_prop.mp (by decide)⟩,
        fun _ h => Option.some.inj h ▸ ⟨by decide, List.all_iff_forall_prop.mp (by decide)⟩⟩
    exact (hsite sampleSite hwellFormed (by decide +kernel)).1.trans (by decide +kernel)
  · exact absurd (Settings.File.load_eq_ok_iff.mp hfile) (hnone _)

end Telemetry.Program
