import ShieldPolicy.Log.Event
import ShieldPolicy.Log.Filter
import ShieldPolicy.Log.Layout
import ShieldPolicy.Machine

/-!
# Logging

A logger writes the records that its filter lets through to one stream. The silent logger writes
nothing, and a run with it is a run without logging.
-/

namespace ShieldPolicy

structure Logger where
  filter : Log.Filter := {}
  layout : Log.Layout := .text
  stream : Stream := .error

namespace Logger

def silent : Logger := {}

variable {m : Type → Type} [Monad m] [Machine m]

def log (logger : Logger) (e : Log.Event) : m Unit :=
  if logger.filter.admits e.record then do
    Machine.write logger.stream (logger.layout.write (← Machine.clock) e.record)
  else pure ()

def logAll (logger : Logger) : List Log.Event → m Unit
  | [] => pure ()
  | e :: rest => do
    logger.log e
    logger.logAll rest

end Logger

end ShieldPolicy
