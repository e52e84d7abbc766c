import MacroShell.Number.Integer
import MacroShell.Text.Quoted

/-!
# Templates

A template is a text with fields between braces. A field names a value, may take a part of it, may
quote it, and may say how it is padded and cut. A doubled brace stands for itself.
-/

namespace MacroShell

inductive TemplateError
  | malformed (complaint : Text)
  | unknownName (name : Text)
  /-- A field has a number in place of a name. -/
  | numbered (n : Nat)
  /-- A field asks for a part that a text does not have. -/
  | noPart (name : Text)
  /-- A field asks for a character by something other than a number. -/
  | badIndex
  | indexOutOfRange
  deriving DecidableEq

def TemplateError.message : TemplateError → Text
  | malformed complaint => complaint
  | unknownName name => name.quoted
  | numbered n =>
    "Replacement index ".toList ++ naturalText n ++ " out of range for positional args tuple".toList
  | noPart name => "'str' object has no attribute '".toList ++ name ++ "'".toList
  | badIndex => "string indices must be integers, not 'str'".toList
  | indexOutOfRange => "string index out of range".toList

/-- A field: its name with what selects a part, how it is quoted, and how it is laid out. -/
structure TemplateField where
  selector : Text
  quoting : Option Char
  layout : Text
  deriving DecidableEq

/-- What a field asks for. It need not be a text, but can be shown as one, plain, quoted, or in a
layout. -/
structure TemplatePart where
  text : Text
  quoted : Text
  layOut : Text → Except TemplateError Text

/-- Looks up what a text has by name; what follows that name in a selector is told too. -/
abbrev NamedParts := Text → Text → Text → Except TemplateError TemplatePart

namespace Template

def complain {α : Type} (complaint : String) : Except TemplateError α :=
  .error (.malformed complaint.toList)

/-! ## Reading fields -/

/-- Reads the selector of a field up to the colon, exclamation mark or brace that ends it; between
square brackets these stand for themselves. -/
def readSelector (bracketed : Bool) : Text → Except TemplateError (Text × Text)
  | [] => complain "expected '\x7d' before end of string"
  | c :: rest =>
    if bracketed then
      (readSelector (c != ']') rest).map fun (selector, rest) => (c :: selector, rest)
    else if c = '\x7b' then complain "unexpected '\x7b' in field name"
    else if c = '\x7d' || c = ':' || c = '!' then .ok ([], c :: rest)
    else (readSelector (c == '[') rest).map fun (selector, rest) => (c :: selector, rest)

/-- Reads the layout of a field up to its closing brace, inside so many more pairs of braces. -/
def readLayout : Nat → Text → Except TemplateError (Text × Text)
  | _, [] => complain "unmatched '\x7b' in format spec"
  | depth, c :: rest =>
    if c = '\x7d' then
      match depth with
      | 0 => .ok ([], rest)
      | depth + 1 => (readLayout depth rest).map fun (layout, rest) => (c :: layout, rest)
    else
      (readLayout (if c = '\x7b' then depth + 1 else depth) rest).map fun (layout, rest) =>
        (c :: layout, rest)

def readField (t : Text) : Except TemplateError (TemplateField × Text) := do
  let (selector, rest) ← readSelector false t
  match rest with
  | '!' :: quoting :: '\x7d' :: rest => .ok (⟨selector, some quoting, []⟩, rest)
  | '!' :: quoting :: ':' :: rest =>
    let (layout, rest) ← readLayout 0 rest
    .ok (⟨selector, some quoting, layout⟩, rest)
  | ['!'] => complain "end of string while looking for conversion specifier"
  | ['!', _] => complain "unmatched '\x7b' in format spec"
  | '!' :: _ => complain "expected ':' after conversion specifier"
  | ':' :: rest =>
    let (layout, rest) ← readLayout 0 rest
    .ok (⟨selector, none, layout⟩, rest)
  | _ => .ok (⟨selector, none, []⟩, rest.tail)

/-- Takes a number off the front. Greater ones than fit into 63 bits are refused. -/
def takeNumber (t : Text) : Except TemplateError (Option Nat × Text) :=
  match t.span isDecimal with
  | ([], rest) => .ok (none, rest)
  | (digits, rest) =>
    if digitsValue digits < twoTo 63 then .ok (some (digitsValue digits), rest)
    else complain "Too many decimal digits in format string"

/-! ## Laying out -/

def isAlignment (c : Char) : Bool := c == '<' || c == '>' || c == '^' || c == '='

/-- Takes the filling character and the alignment off a layout. -/
def takeAlignment : Text → Option Char × Char × Text
  | fill :: alignment :: rest =>
    if isAlignment alignment then (some fill, alignment, rest)
    else if isAlignment fill then (none, fill, alignment :: rest)
    else (none, '<', fill :: alignment :: rest)
  | [c] => if isAlignment c then (none, c, []) else (none, '<', [c])
  | [] => (none, '<', [])

def takeOneOf (options : Text) : Text → Option Char × Text
  | c :: rest => if options.contains c then (some c, rest) else (none, c :: rest)
  | [] => (none, [])

def takeSeparator (layout : Text) : Except TemplateError (Option Char × Text) :=
  match layout with
  | ',' :: '_' :: _ | '_' :: ',' :: _ => complain "Cannot specify both ',' and '_'."
  | _ => .ok (takeOneOf [',', '_'] layout)

def takePrecision (layout : Text) : Except TemplateError (Option Nat × Text) :=
  match layout with
  | '.' :: rest => do
    let (length, rest) ← takeNumber rest
    if length.isNone then complain "Format specifier missing precision" else .ok (length, rest)
  | _ => .ok (none, layout)

/-- A character in a message: by its code unless it lies between space and a limit. -/
def codeText (limit : Nat) (c : Char) : Text :=
  if 32 < c.toNat && c.toNat < limit then [c] else '\\' :: 'x' :: Nat.toDigits 16 c.toNat

/-- The types that numbers can be laid out as, with a separator of thousands. -/
def takesSeparator (separator kind : Char) : Bool :=
  "defgEG%F\x00".toList.contains kind || (separator == '_' && "boxX".toList.contains kind)

/-- Refuses what is left of a layout, unless it says that a text is laid out. -/
def checkKind (layout : Text) (separator : Option Char) (rest : Text) :
    Except TemplateError Unit :=
  match separator, rest with
  | _, _ :: _ :: _ =>
    .error (.malformed ("Invalid format specifier '".toList ++ layout ++
      "' for object of type 'str'".toList))
  | none, [] | none, ['s'] => .ok ()
  | some separator, [] => unseparated separator 's'
  | some separator, [kind] =>
    if takesSeparator separator kind then unknown kind else unseparated separator kind
  | none, [kind] => unknown kind
where
  unseparated (separator kind : Char) : Except TemplateError Unit :=
    .error (.malformed ("Cannot specify '".toList ++ separator :: "' with '".toList ++
      codeText 128 kind ++ "'.".toList))
  unknown (kind : Char) : Except TemplateError Unit :=
    .error (.malformed ("Unknown format code '".toList ++ codeText 128 kind ++
      "' for object of type 'str'".toList))

def pad (fill alignment : Char) (width : Nat) (value : Text) : Text :=
  let missing := width - value.length
  let before := if alignment = '>' then missing else if alignment = '^' then missing / 2 else 0
  List.replicate before fill ++ value ++ List.replicate (missing - before) fill

/-- Lays out a text: filling and alignment, least width, greatest length. What only numbers can have
is refused. -/
def layOut (layout value : Text) : Except TemplateError Text := do
  if layout.isEmpty then .ok value
  else
    let (fill, alignment, rest) := takeAlignment layout
    let (sign, rest) := takeOneOf [' ', '+', '-'] rest
    let (coercion, rest) := takeOneOf ['z'] rest
    let (alternate, rest) := takeOneOf ['#'] rest
    let (fill, rest) := if fill.isSome then (fill, rest) else takeOneOf ['0'] rest
    let (width, rest) ← takeNumber rest
    let (separator, rest) ← takeSeparator rest
    let (length, rest) ← takePrecision rest
    checkKind layout separator rest
    if sign = some ' ' then complain "Space not allowed in string format specifier"
    else if sign.isSome then complain "Sign not allowed in string format specifier"
    else if coercion.isSome then
      complain "Negative zero coercion (z) not allowed in string format specifier"
    else if alternate.isSome then
      complain "Alternate form (#) not allowed in string format specifier"
    else if alignment = '=' then
      complain "'=' alignment not allowed in string format specifier"
    else .ok (pad (fill.getD ' ') alignment (width.getD 0) (value.take (length.getD value.length)))

/-! ## Parts of a value -/

section
variable (named : NamedParts)

def whole (value : Text) : TemplatePart := ⟨value, value.quoted, fun layout => layOut layout value⟩

/-- The name at the front of a selector, and what follows it. -/
def splitName (selector : Text) : Text × Text := selector.span fun c => c != '.' && c != '['

/-- The part of a text that a selector asks for after its name. -/
def selectPart : Nat → Text → Text → Except TemplateError TemplatePart
  | 0, _, value => .ok (whole value)
  | fuel + 1, selector, value =>
    match selector with
    | [] => .ok (whole value)
    | '.' :: rest =>
      let (name, after) := splitName rest
      if name.isEmpty then complain "Empty attribute in format string" else named value name after
    | '[' :: rest =>
      match rest.span (· != ']') with
      | (_, []) => complain "Missing ']' in format string"
      | (index, _ :: after) =>
        match takeNumber index with
        | .error e => .error e
        | .ok (some n, []) =>
          match value[n]? with
          | some c => selectPart fuel after [c]
          | none => .error .indexOutOfRange
        | .ok _ =>
          if index.isEmpty then complain "Empty attribute in format string" else .error .badIndex
    | _ :: _ => complain "Only '.' or '[' may follow ']' in format field specifier"

def select (value? : Text → Option Text) (selector : Text) : Except TemplateError TemplatePart :=
  let (name, part) := splitName selector
  match takeNumber name with
  | .error e => .error e
  | .ok (some n, []) => .error (.numbered n)
  | .ok _ =>
    if name.isEmpty then .error (.numbered 0)
    else match value? name with
      | some value => selectPart named part.length part value
      | none => .error (.unknownName name)

end

/-- Writes every character outside the common script as an escape. -/
def escapeForeign (t : Text) : Text :=
  t.flatMap fun c => if c.toNat < 0x7F then [c] else escapeCode c.toNat

def quote (quoting : Option Char) (part : TemplatePart) : Except TemplateError TemplatePart :=
  match quoting with
  | none => .ok part
  | some 's' => .ok (whole part.text)
  | some 'r' => .ok (whole part.quoted)
  | some 'a' => .ok (whole (escapeForeign part.quoted))
  | some c => .error (.malformed ("Unknown conversion specifier ".toList ++ codeText 127 c))

/-! ## Filling in -/

section
variable (named : NamedParts) (value? : Text → Option Text)

/-- Fills in a field, given how layouts that hold fields themselves are filled in. -/
def fill (inner : Text → Except TemplateError Text) (field : TemplateField) :
    Except TemplateError Text := do
  let part ← select named value? field.selector
  let part ← quote field.quoting part
  let layout ← if field.layout.contains '\x7b' then inner field.layout else .ok field.layout
  part.layOut layout

/-- Fills in a template whose first characters, as many as given, are dealt with. -/
def renderAfter (fillIn : TemplateField → Except TemplateError Text) :
    Nat → Text → Except TemplateError Text
  | _, [] => .ok []
  | skip + 1, _ :: rest => renderAfter fillIn skip rest
  | 0, '\x7b' :: '\x7b' :: rest => ('\x7b' :: ·) <$> renderAfter fillIn 1 ('\x7b' :: rest)
  | 0, '\x7d' :: '\x7d' :: rest => ('\x7d' :: ·) <$> renderAfter fillIn 1 ('\x7d' :: rest)
  | 0, '\x7d' :: _ => complain "Single '\x7d' encountered in format string"
  | 0, ['\x7b'] => complain "Single '\x7b' encountered in format string"
  | 0, '\x7b' :: rest => do
    let (field, after) ← readField rest
    let value ← fillIn field
    (value ++ ·) <$> renderAfter fillIn (rest.length - after.length) rest
  | 0, c :: rest => (c :: ·) <$> renderAfter fillIn 0 rest

/-- Fills in a template; layouts may hold fields down to the given depth. -/
def renderWithin : Nat → Text → Except TemplateError Text
  | 0, _ => complain "Max string recursion exceeded"
  | depth + 1, t => renderAfter (fill named value? (renderWithin depth)) 0 t

def render (t : Text) : Except TemplateError Text := renderWithin named value? 2 t

end

end Template
end MacroShell
