import KeyLayers.Numeral.Reading
import KeyLayers.Output

/-!
# Arguments of the command line

The program takes two paths and some options, which may stand anywhere.  An option with a value
takes the next argument, or what stands behind an equals sign; a pair of dashes there is no value.
A long option may be cut short as long as one option alone begins so.  Short options may be written
together, and the first of them may be set off by an equals sign.  Two dashes end the options.

What begins with a dash is an option, except a dash alone, what reads as a negative number, and what
is no option and has a space in it.

## Main definitions

* `Options` — the paths and what the options say.
* `Token`, `Token.ofArgument` — what kind an argument is of.
* `Exit` — why the program ends before it has done anything.
* `Options.parse` — the options that arguments give.
-/

namespace KeyLayers.CommandLine

/-- What the arguments say. -/
structure Options where
  /-- The path of the configuration. -/
  input : String
  /-- The path of the output. -/
  output : String
  /-- The width of a level of the output; `none` if the option has no value. -/
  indent : Option Int := some 2
  /-- The name of the format; `none` if the option has no value. -/
  format : Option String := some Format.rules.name
  /-- The title, if there is one. -/
  title : Option String := none
  /-- Whether the log is shown. -/
  verbose : Bool := false
  deriving DecidableEq, Repr

/-- Why the program ends before it has done anything. -/
inductive Exit
  /-- It was asked for help. -/
  | help
  /-- The arguments are not understood. -/
  | usage
  /-- The path of the output is a pair of dashes that nothing announces. -/
  | noOutput
  deriving DecidableEq, Repr

/-- An option. -/
inductive Switch
  /-- Asks for help. -/
  | help
  /-- Says more. -/
  | verbose
  /-- The width of a level. -/
  | indent
  /-- The format. -/
  | format
  /-- The title. -/
  | title
  deriving DecidableEq, Repr

namespace Switch

/-- The names of the options. -/
def names : List (List Char × Switch) :=
  [("-h".toList, .help), ("--help".toList, .help), ("--indent".toList, .indent),
   ("--format".toList, .format), ("--title".toList, .title), ("-v".toList, .verbose),
   ("--verbose".toList, .verbose)]

/-- The option with a name. -/
def ofName? (s : List Char) : Option Switch := names.lookup s

/-- Whether an option has a value. -/
def takesValue : Switch → Bool
  | .help => false
  | .verbose => false
  | _ => true

end Switch

/-- An argument by its kind. -/
inductive Token
  /-- A path, or the value of an option. -/
  | plain (s : String)
  /-- An option, by its long name, with what stands behind the equals sign. -/
  | long (o : Switch) (value : Option String)
  /-- An option by its short name, with what stands behind it or behind the equals sign. -/
  | short (o : Switch) (behind : Option (List Char))
  /-- No option, but nothing else either. -/
  | unknown
  /-- The end of the options. -/
  | dashes
  deriving DecidableEq, Repr

namespace Token

/-- Whether a text reads as a negative number: digits of any script after the dash, maybe with a
point before the last of them; a line end may follow. -/
def isNegativeNumber (s : List Char) : Bool :=
  match s with
  | '-' :: s =>
    let s := if s.getLast? = some '\n' then s.dropLast else s
    match s.dropWhile Text.isDecimalDigit with
    | [] => !s.isEmpty
    | '.' :: fraction => !fraction.isEmpty && fraction.all Text.isDecimalDigit
    | _ => false
  | _ => false

/-- What stands before the first equals sign, and what behind it, if there is one. -/
def cut (s : List Char) : List Char × Option (List Char) :=
  match s.dropWhile (· ≠ '=') with
  | [] => (s, none)
  | _ :: behind => (s.takeWhile (· ≠ '='), some behind)

/-- An option by one of its names, with what stands behind the equals sign. -/
def named (name : List Char) (o : Switch) (behind : Option (List Char)) : Token :=
  match name with
  | '-' :: '-' :: _ => .long o (behind.map String.ofList)
  | _ => .short o behind

/-- The kind of an argument before the end of the options.  `none` if it is the beginning of several
options. -/
def ofArgument (argument : String) : Option Token :=
  let s := argument.toList
  if s.head? ≠ some '-' then some (.plain argument)
  else
    match Switch.ofName? s with
    | some o => some (named s o none)
    | none =>
      if s.length = 1 then some (.plain argument)
      else
        let (name, behind) := cut s
        match behind, Switch.ofName? name with
        | some b, some o => some (named name o (some b))
        | _, _ =>
          let other : Token :=
            if isNegativeNumber s || s.contains ' ' then .plain argument else .unknown
          if s[1]? = some '-' then
            match Switch.names.filter fun n => name.isPrefixOf n.1 with
            | [] => some other
            | [n] => some (.long n.2 (behind.map String.ofList))
            | _ => none
          else
            match Switch.ofName? (s.take 2) with
            | some o => some (.short o (some (s.drop 2)))
            | none => some other

/-- The kinds of arguments in order.  Behind the end of the options everything is plain. -/
def ofArguments : List String → Option (List Token)
  | [] => some []
  | a :: as =>
    if a = "--" then some (.dashes :: as.map .plain)
    else (ofArgument a).bind fun t => (ofArguments as).map (t :: ·)

end Token

/-- What has been understood of the arguments so far. -/
structure Progress where
  /-- The path of the configuration. -/
  input : Option String := none
  /-- The path of the output. -/
  output : Option String := none
  /-- Whether an option stands between the last path and here. -/
  interrupted : Bool := false
  /-- Whether the end of the options stood directly before the path of the output. -/
  announced : Bool := false
  /-- Whether the path of the output is a pair of dashes that counts as none. -/
  dropped : Bool := false
  /-- Whether something was not understood that is only complained about at the end. -/
  surplus : Bool := false
  /-- The width of a level. -/
  indent : Option Int := some 2
  /-- The format. -/
  format : Option String := some Format.rules.name
  /-- The title. -/
  title : Option String := none
  /-- Whether the log is shown. -/
  verbose : Bool := false

namespace Progress

/-- Takes an option that has a value, but is given none. -/
def clearValue (p : Progress) (o : Switch) : Except Exit Progress :=
  match o with
  | .indent => .ok { p with indent := none }
  | .format => .ok { p with format := none }
  | .title => .ok { p with title := none }
  | _ => .error .usage

/-- Takes the value of an option. -/
def setValue (p : Progress) (o : Switch) (value : String) : Except Exit Progress :=
  if value = "--" then p.clearValue o
  else
    match o with
    | .indent =>
      match Numeral.argumentInteger? value.toList with
      | some n => .ok { p with indent := some n }
      | none => .error .usage
    | .format =>
      match Format.ofName? value with
      | some _ => .ok { p with format := some value }
      | none => .error .usage
    | .title => .ok { p with title := some value }
    | _ => .error .usage

/-- Takes an option without a value. -/
def set (p : Progress) : Switch → Except Exit Progress
  | .help => .error .help
  | .verbose => .ok { p with verbose := true }
  | _ => .error .usage

/-- Takes options in order. -/
def setAll (p : Progress) : List Switch → Except Exit Progress
  | [] => .ok p
  | o :: os => (p.set o).bind fun p => p.setAll os

/-- The options that the characters of a text name; `none` if one of them names none. -/
def together (s : List Char) : Option (List Switch) := s.mapM fun c => Switch.ofName? ['-', c]

/-- Takes an option by its short name and those that are written behind it, or none of them if one
is not known.  An equals sign with nothing behind it gives a value to an option that has none. -/
def setShort (p : Progress) (o : Switch) (behind : Option (List Char)) : Except Exit Progress :=
  match behind.map together with
  | none => p.set o
  | some (some (o' :: os)) => p.setAll (o :: o' :: os)
  | _ => .error .usage

/-- Takes a path. -/
def addPath (p : Progress) (path : String) : Except Exit Progress :=
  match p.input, p.output with
  | none, _ => .ok { p with input := some path, interrupted := false }
  | some _, none =>
    .ok { p with
      output := some path, interrupted := false, dropped := path = "--" ∧ !p.announced }
  | some _, some _ => .ok { p with surplus := true }

/-- Takes the end of the options.  Behind both paths and a further option it is one argument too
many. -/
def endOptions (p : Progress) : Progress :=
  { p with
    announced := p.input.isSome && p.interrupted
    surplus := p.surplus || (p.output.isSome && p.interrupted) }

/-- Takes arguments in order. -/
def takeAll (p : Progress) : List Token → Except Exit Progress
  | [] => .ok p
  | .plain s :: ts => (p.addPath s).bind fun p => p.takeAll ts
  | .dashes :: ts => p.endOptions.takeAll ts
  | .unknown :: ts => { p with surplus := true, interrupted := true }.takeAll ts
  | .short o behind :: ts =>
    ({ p with interrupted := true }.setShort o behind).bind fun p => p.takeAll ts
  | .long o (some value) :: ts =>
    ({ p with interrupted := true }.setValue o value).bind fun p => p.takeAll ts
  | .long o none :: ts =>
    let p := { p with interrupted := true }
    if o.takesValue then
      match ts with
      | .plain value :: ts => (p.setValue o value).bind fun p => p.takeAll ts
      | _ => .error .usage
    else (p.set o).bind fun p => p.takeAll ts

/-- The options, if both paths are there and everything was understood. -/
def options (p : Progress) : Except Exit Options :=
  match p.input, p.output, p.surplus with
  | some input, some output, false =>
    if p.dropped then .error .noOutput
    else .ok ⟨input, output, p.indent, p.format, p.title, p.verbose⟩
  | _, _, _ => .error .usage

end Progress

/-- The options that arguments give. -/
def Options.parse (arguments : List String) : Except Exit Options :=
  match Token.ofArguments arguments with
  | none => .error .usage
  | some ts => (Progress.takeAll {} ts).bind Progress.options

end KeyLayers.CommandLine
