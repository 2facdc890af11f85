/-!
# Terminal modes

What a terminal does with keys and output before a program sees them, and its size. A new terminal
edits lines, echoes and sends signals; a raw one hands everything on as it is.
-/
namespace TabCompletion

structure TerminalMode where
  rows : Nat := 24
  columns : Nat := 80
  /-- Input is edited and handed on line by line. -/
  canonical : Bool := true
  echo : Bool := true
  signals : Bool := true
  /-- CR is read as LF. -/
  returnIsNewline : Bool := true
  /-- Ctrl-S and Ctrl-Q stop and start the output. -/
  flowControl : Bool := true
  processing : Bool := true
  /-- Processed output has CR LF for LF. -/
  newlineIsPair : Bool := true
  /-- Control characters are shown with a caret. -/
  caretEcho : Bool := true
  /-- Erased characters vanish from the screen. -/
  eraseEcho : Bool := true
  deriving DecidableEq, Repr, Inhabited

namespace TerminalMode

/-- The mode in which nothing is done but echoing. -/
def raw (m : TerminalMode) : TerminalMode :=
  { m with
    canonical := false, signals := false, returnIsNewline := false, flowControl := false,
    processing := false }

/-- The mode that a program sets that reads every key itself. -/
def rawSilent (m : TerminalMode) : TerminalMode :=
  { m.raw with echo := false }

def cooked (m : TerminalMode) : TerminalMode :=
  { m with
    canonical := true, signals := true, returnIsNewline := true, flowControl := true,
    processing := true }

def sane (m : TerminalMode) : TerminalMode := { rows := m.rows, columns := m.columns }

end TerminalMode
end TabCompletion
