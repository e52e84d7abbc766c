import Mathlib.Logic.Function.Iterate
import MacroShell.Proofs.Session.DepthLimit

/-!
# Running a line in single steps

The calls under way are kept on a stack, and a call is refused by looking at the limit and at the
stack alone. No step knows how much room is left, so it is not clear from the steps that they come
to an end.
-/

namespace MacroShell

/-- A call under way: the commands still to be run, and the outputs so far. -/
structure Frame where
  pending : List Text
  outputs : List Text

/-- Where the run of a line stands: at a line to be run inside calls, the innermost first; at the
answer to such a line; or at the end. -/
inductive Machine
  | line (text : Text) (frames : List Frame) (s : Session)
  | answer (output : Option Text) (frames : List Frame) (s : Session)
  | halted (o : Outcome (Option Text))

namespace Machine
open Session

def resume (frame : Frame) (frames : List Frame) (s : Session) : Machine :=
  match frame.pending with
  | [] => .answer (some (Text.joinLines frame.outputs)) frames s
  | command :: pending => .line command (⟨pending, frame.outputs⟩ :: frames) s

/-- Enters a call inside others, if the stack can hold it. -/
def push (settings : Settings) (d : Definition) (frames : List Frame) (s : Session) : Machine :=
  if frames.length < settings.stackCapacity then resume ⟨d.commands, []⟩ frames s
  else .halted (.error .stackExhausted, s)

/-- Enters a call inside others, unless the limit does not allow it. -/
def enter (settings : Settings) (d : Definition) (frames : List Frame) (s : Session) : Machine :=
  match settings.depthLimit with
  | some limit =>
    if limit < frames.length + 1 then .halted (.error (.tooDeep d.name limit), s)
    else push settings d frames s
  | none => push settings d frames s

/-- Goes on with what a line has answered, or ends with its interruption. -/
def proceed (frames : List Frame) : Outcome (Option Text) → Machine
  | (.ok output, s) => .answer output frames s
  | (.error e, s) => .halted (.error e, s)

def step (world : World) (settings : Settings) : Machine → Machine
  | .line text frames s =>
    match reading frames.length text s with
    | .blank => .answer (some []) frames s
    | .exit => .answer none frames s
    | .call d => enter settings d frames s
    | .leaf => proceed frames (leaf world settings text s)
  | .answer output [] s => .halted (.ok output, s)
  | .answer output (frame :: frames) s =>
    resume { frame with outputs := frame.outputs ++ filled output } frames s
  | .halted o => .halted o

/-- Where the run of a line outside all functions stands after so many steps. -/
def steps (world : World) (settings : Settings) (line : Text) (s : Session) (k : Nat) : Machine :=
  (step world settings)^[k] (.line line [] s)

variable {world : World} {settings : Settings}

section
variable {d : Definition} {frames : List Frame} {s : Session}

end

/-! ## Coming to the end -/

/-- Some number of steps leads from one point of a run to another. -/
def Reaches (world : World) (settings : Settings) (m m' : Machine) : Prop :=
  ∃ k, (step world settings)^[k] m = m'

namespace Reaches

theorem refl (m : Machine) : Reaches world settings m m := ⟨0, rfl⟩

theorem trans {m m' m'' : Machine} (h : Reaches world settings m m')
    (h' : Reaches world settings m' m'') : Reaches world settings m m'' := by
  obtain ⟨k, rfl⟩ := h
  obtain ⟨l, rfl⟩ := h'
  exact ⟨l + k, Function.iterate_add_apply _ l k m⟩

theorem head {m m' : Machine} (h : Reaches world settings (step world settings m) m') :
    Reaches world settings m m' := by
  obtain ⟨k, rfl⟩ := h
  exact ⟨k + 1, rfl⟩

end Reaches

end Machine
end MacroShell
