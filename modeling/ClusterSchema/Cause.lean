/-!
# Causes

A failure as it reaches a reader: a message and, behind it, the failure that led to it.  `chain`
lists the messages from the outermost to the root.
-/

namespace ClusterSchema

/-- A failure with everything that led to it. -/
inductive Cause where
  /-- A failure with nothing behind it. -/
  | root (message : String)
  /-- A failure with another behind it. -/
  | dueTo (message : String) (source : Cause)
deriving DecidableEq, Repr

namespace Cause

/-- The outermost message. -/
def message : Cause → String
  | root message => message
  | dueTo message _ => message

/-- The failure right behind this one. -/
def source? : Cause → Option Cause
  | root _ => none
  | dueTo _ source => some source

/-- A failure with the given message and, possibly, another behind it. -/
def ofSource (message : String) : Option Cause → Cause
  | none => root message
  | some source => dueTo message source

/-- Every message, from the outermost to the root. -/
def chain : Cause → List String
  | root message => [message]
  | dueTo message source => message :: source.chain

theorem message_ofSource (text : String) (behind : Option Cause) :
    (ofSource text behind).message = text := by
  cases behind <;> rfl

theorem source?_ofSource (text : String) (behind : Option Cause) :
    (ofSource text behind).source? = behind := by
  cases behind <;> rfl

end Cause

end ClusterSchema
