import SqlTemplate.Failure

/-!
# Written text

The result of writing: the text that has been written and, where the writing stopped, the fault that
stopped it. Writing one thing after another (`Written.followedBy`) ends at the first fault; the text
written before it stays.
-/

namespace SqlTemplate

/-- A written text, and the fault at which the writing stopped. -/
structure Written where
  text : Text
  fault? : Option Fault

namespace Written

def ok (text : Text) : Written := ⟨text, none⟩

def fault (f : Fault) : Written := ⟨[], some f⟩

/-- One writing after another, unless the first one stops. -/
def followedBy (a b : Written) : Written :=
  match a.fault? with
  | some _ => a
  | none => ⟨a.text ++ b.text, b.fault?⟩

def commaJoined : List Written → Written
  | [] => ok []
  | [a] => a
  | a :: b :: rest => a.followedBy ((ok [',']).followedBy (commaJoined (b :: rest)))

/-- Several writings with commas between them, between an opening and a closing text. -/
def bracketed (opening closing : Text) (parts : List Written) : Written :=
  (ok opening).followedBy ((commaJoined parts).followedBy (ok closing))

/-- The text, or the fault that stopped the writing. -/
def toExcept (w : Written) : Except Fault Text :=
  match w.fault? with
  | some f => .error f
  | none => .ok w.text

end Written

end SqlTemplate
