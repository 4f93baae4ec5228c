import CredentialCheck.Value.Render

/-!
# The console

Two streams of output, and printing on them: values are shown as texts, with a separator between
them and an ending behind the last. A console remembers each text that was written and its order
among the others, so what was printed can be told from what others (the log, for one) wrote on the
same streams.

* `Console.print` prints on the output stream or the error stream, with options by name.
* `Console.text` is all that a stream shows, `Console.prints` the texts that were printed on it;
  `text_add` and `prints_add` say what one more writing does to them.
-/

namespace CredentialCheck

/-! ## What has been written -/

/-- The streams of a console. -/
inductive Stream
  | output
  | error
  deriving DecidableEq, Repr

/-- A text that was written on a stream. -/
structure Writing where
  stream : Stream
  /-- Whether it was printed, and not written beside what is printed. -/
  isPrint : Bool
  text : String
  deriving DecidableEq, Repr

/-- What has been written, in order. -/
structure Console where
  writings : List Writing
  deriving DecidableEq, Repr

namespace Console

/-- Nothing has been written. -/
def empty : Console := ⟨[]⟩

/-- The console with one more writing. -/
def add (c : Console) (w : Writing) : Console := ⟨c.writings ++ [w]⟩

/-- The console with a text written on a stream beside what is printed. -/
def write (c : Console) (stream : Stream) (text : String) : Console := c.add ⟨stream, false, text⟩

/-- What a stream shows. -/
def text (c : Console) (stream : Stream) : String :=
  String.join ((c.writings.filter (·.stream == stream)).map Writing.text)

/-- The texts that were printed on a stream. -/
def prints (c : Console) (stream : Stream) : List String :=
  (c.writings.filter fun w => w.isPrint && w.stream == stream).map Writing.text

@[simp] theorem text_empty (stream : Stream) : empty.text stream = "" := rfl

theorem text_add (c : Console) (w : Writing) (stream : Stream) :
    (c.add w).text stream = c.text stream ++ if w.stream = stream then w.text else "" := by
  by_cases h : w.stream = stream <;> simp [text, add, h, String.join_append]

@[simp] theorem prints_empty (stream : Stream) : empty.prints stream = [] := rfl

theorem prints_add (c : Console) (w : Writing) (stream : Stream) :
    (c.add w).prints stream =
      c.prints stream ++ if w.isPrint ∧ w.stream = stream then [w.text] else [] := by
  by_cases h : w.isPrint ∧ w.stream = stream <;> simp [prints, add, h]

/-! ## Printing -/

/-- Why nothing can be printed. -/
inductive Fault
  /-- The error stream is asked for and another one given. -/
  | streamTwice
  /-- The console itself is given by name. -/
  | consoleTwice (function : String)
  | unknownOption (name : String)
  /-- The separator or the ending is neither null nor a text. -/
  | notText (option : String) (kind : Kind)
  /-- The stream given is none. -/
  | notAStream (kind : Kind)

/-- The fault in words. -/
def Fault.message : Fault → String
  | .streamTwice => "print() got multiple values for keyword argument 'file'"
  | .consoleTwice function =>
    "ConsoleIO." ++ function ++ "() got multiple values for argument 'self'"
  | .unknownOption name =>
    "'" ++ name ++ "' is an invalid keyword argument for print()"
  | .notText option kind => option ++ " must be None or a string, not " ++ kind.name
  | .notAStream kind => Text.quoted kind.name ++ " object has no attribute 'write'"

/-- The options of printing. -/
def optionNames : List String := ["sep", "end", "file", "flush"]

/-- An option that is a text, with its usual value. -/
def textOption (options : List (String × Value)) (name usual : String) : Except Fault String :=
  match (options.find? (·.1 == name)).map Prod.snd with
  | none => .ok usual
  | some .null => .ok usual
  | some (.string s) => .ok s
  | some v => .error (.notText name v.kind)

/-- What printing the values with options writes. -/
def printed (values : List Value) (options : List (String × Value)) : Except Fault String := do
  match options.find? fun o => !optionNames.contains o.1 with
  | some o => throw (.unknownOption o.1)
  | none => pure ()
  let separator ← textOption options "sep" " "
  let ending ← textOption options "end" "\n"
  match options.find? (·.1 == "file") with
  | some (_, .null) | none => pure ()
  | some (_, v) => throw (.notAStream v.kind)
  return separator.intercalate (values.map Value.display) ++ ending

/-- The name of the function that prints on a stream. -/
def functionName : Stream → String
  | .output => "print"
  | .error => "error"

/-- Prints the values on a stream. -/
def print (c : Console) (stream : Stream) (values : List Value)
    (options : List (String × Value)) : Except Fault Console := do
  if options.any (·.1 == "self") then throw (.consoleTwice (functionName stream))
  if stream = .error ∧ options.any (·.1 == "file") then throw .streamTwice
  return c.add ⟨stream, true, ← printed values options⟩

/-- Prints one line of text on a stream. -/
def line (c : Console) (stream : Stream) (text : String) : Console :=
  c.add ⟨stream, true, text ++ "\n"⟩

end Console

end CredentialCheck
