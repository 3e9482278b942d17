import SqlTemplate.Value.Display

/-!
# Configurations of queries

A configuration has two fields: the output format of queries that set none of their own, and whether
a query that fails is logged. `QueryConfig.replace` gives a changed copy, and refuses names that are
no fields.
-/

namespace SqlTemplate

structure QueryConfig where
  outputFormat : Value
  logFailures : Value

inductive ConfigFault where
  | notAField (name : Text)
  | noAttribute (name : Text)
  /-- A change of something that every configuration shares. -/
  | readOnly (name : Text)
  /-- The configuration itself is named as a field, by the operation with the given name. -/
  | itself (operation : String)
  | unexpected (name : Text)

namespace ConfigFault

def message : ConfigFault → Text
  | notAField name => Text.displayed name ++ " is not a field in QueryConfig".toList
  | noAttribute name => "'QueryConfig' object has no attribute '".toList ++ name ++ ['\'']
  | readOnly name =>
    "'QueryConfig' object attribute '".toList ++ name ++ "' is read-only".toList
  | itself operation =>
    "QueryConfig.".toList ++ operation.toList ++ "() got multiple values for argument 'self'".toList
  | unexpected name =>
    "QueryConfig.__init__() got an unexpected keyword argument '".toList ++ name ++ ['\'']

def kindName : ConfigFault → Text
  | noAttribute _ | readOnly _ => "AttributeError".toList
  | _ => "TypeError".toList

end ConfigFault

namespace QueryConfig

def default : QueryConfig := ⟨.null, .bool true⟩

def outputFormatName : Text := "default_output_format".toList

def logFailuresName : Text := "log_failures".toList

/-- The output format as it is appended to a statement. -/
def format? (c : QueryConfig) : Option Text :=
  match c.outputFormat with
  | .null => none
  | v => some v.plainText

def get? (c : QueryConfig) (name : Text) : Option Value :=
  if name = outputFormatName then some c.outputFormat
  else if name = logFailuresName then some c.logFailures
  else none

def set? (c : QueryConfig) (name : Text) (v : Value) : Option QueryConfig :=
  if name = outputFormatName then some { c with outputFormat := v }
  else if name = logFailuresName then some { c with logFailures := v }
  else none

def get (c : QueryConfig) (name : Text) : Except ConfigFault Value :=
  match c.get? name with
  | some v => .ok v
  | none => .error (.noAttribute name)

def sharedNames : List String :=
  ["replace", "__init__", "__eq__", "__hash__", "__repr__", "__slots__", "__doc__", "__module__"]

def set (c : QueryConfig) (name : Text) (v : Value) : Except ConfigFault QueryConfig :=
  match c.set? name v with
  | some c => .ok c
  | none =>
    .error (if sharedNames.any (·.toList == name) then .readOnly name else .noAttribute name)

/-- The name under which an operation knows the configuration itself. -/
def selfName : Text := "self".toList

/-- The configuration with the given fields changed; `refuse` is what a name that is no field leads
to. -/
def update (c : QueryConfig) (refuse : Text → ConfigFault) :
    List (Text × Value) → Except ConfigFault QueryConfig
  | [] => .ok c
  | (name, v) :: rest =>
    match c.set? name v with
    | some c => c.update refuse rest
    | none => .error (refuse name)

/-- A copy with the given fields changed. The first name that is no field is refused. -/
def replace (c : QueryConfig) (changes : List (Text × Value)) : Except ConfigFault QueryConfig :=
  if changes.any (·.1 == selfName) then .error (.itself "replace")
  else c.update .notAField changes

def ofFields (fields : List (Text × Value)) : Except ConfigFault QueryConfig :=
  default.update (fun name => if name = selfName then .itself "__init__" else .unexpected name)
    fields

def equal (c d : QueryConfig) : Bool :=
  c.outputFormat.equal d.outputFormat && c.logFailures.equal d.logFailures

def displayed (c : QueryConfig) : Text :=
  "QueryConfig(default_output_format=".toList ++ c.outputFormat.displayed ++
    ", log_failures=".toList ++ c.logFailures.displayed ++ [')']

end QueryConfig

end SqlTemplate
