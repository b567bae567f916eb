import Telemetry.Channel.Config

/-!
# How settings come about

Settings start as those of a target, or of a host and a port, and are changed one step at a time. What holds
at the start and is kept by every step holds of all settings that are built so.
-/
namespace Telemetry.Channel.Config

inductive Origin where
  | target (text : String)
  | hostAndPort (host : String) (port : UInt16)

def Origin.config : Origin → Config
  | .target text => new text
  | .hostAndPort host port => forAddress host port

inductive Step where
  | withoutKeepAlive
  | withKeepAlive (k : KeepAlive)
  | withConnectTimeout (d : Duration)
  | withRequestTimeout (d : Duration)
  | withUserAgent (agent : String)
  | withTls
  | withoutTls

def advance (c : Config) : Step → Config
  | .withoutKeepAlive => c.withoutKeepAlive
  | .withKeepAlive k => c.withKeepAlive k
  | .withConnectTimeout d => c.withConnectTimeout d
  | .withRequestTimeout d => c.withRequestTimeout d
  | .withUserAgent agent => c.withUserAgent agent
  | .withTls => c.withTls
  | .withoutTls => c.withoutTls

def built (o : Origin) (steps : List Step) : Config := steps.foldl advance o.config

theorem built_induction {P : Config → Prop} (start : ∀ target, P (new target))
    (step : ∀ c s, P c → P (advance c s)) (o : Origin) (steps : List Step) : P (built o steps) := by
  have horigin : P o.config := by
    cases o with
    | target text => exact start text
    | hostAndPort host port => exact start _
  exact List.foldlRecOn steps advance horigin fun c h s _ => step c s h

end Telemetry.Channel.Config
