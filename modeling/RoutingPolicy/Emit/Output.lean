import RoutingPolicy.Emit.Format

/-!
# Writing

What has been written is part of the result, also where an error ended the writing, so that it can
be said that nothing was written then.
-/

set_option autoImplicit false

namespace RoutingPolicy

/-- A computation that writes text and may end with an error. -/
abbrev Output (ε : Type) := ExceptT ε (StateM String)

namespace Output

variable {ε α : Type}

def write (text : String) : Output ε Unit := fun written => (.ok (), written ++ text)

def ofExcept (result : Except ε α) : Output ε α := fun written => (result, written)

def collect (output : Output ε α) : Except ε α × String := output ""

end Output

def RuleSet.emit (format : RuleFormat) (s : RuleSet) : Output EmitError Unit := do
  let text ← Output.ofExcept (s.render format)
  Output.write text

end RoutingPolicy
