import Telemetry.Channel.Config

/-!
# Attempts to connect

An attempt has a result and, before that, the settings with which a connection was tried, in turn. After
the first error nothing more is tried.
-/
namespace Telemetry

structure Attempt (α : Type) where
  tried : List Channel.Config
  result : Except ClientError α

namespace Attempt

variable {α β : Type}

def pure (a : α) : Attempt α := ⟨[], .ok a⟩

def bind (x : Attempt α) (f : α → Attempt β) : Attempt β :=
  match x.result with
  | .error e => ⟨x.tried, .error e⟩
  | .ok a => ⟨x.tried ++ (f a).tried, (f a).result⟩

/-- What is decided without a connection. -/
def ofExcept (r : Except ClientError α) : Attempt α := ⟨[], r⟩

instance : Monad Attempt where
  pure := pure
  bind := bind

instance : MonadLift (Except ClientError) Attempt := ⟨ofExcept⟩

end Attempt
end Telemetry
