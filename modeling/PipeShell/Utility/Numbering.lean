import PipeShell.Text.Regex.Parser
import PipeShell.Utility.Basic

/-! # Numbering lines

Lines are numbered section by section. A page has a header, a body and a footer, each
of which begins with a line of its own, and each has its rule for which lines are
numbered. -/

set_option autoImplicit false

namespace PipeShell.Utility

inductive NumberRule where
  | every
  | filled
  | never
  | matching (regex : Text.Regex)
  deriving DecidableEq, Repr

inductive NumberPlace where
  | left
  | right
  | zeros
  deriving DecidableEq, Repr

structure NumberStyle where
  header : NumberRule := .never
  body : NumberRule := .filled
  footer : NumberRule := .never
  width : Nat := 6
  separator : String := "\t"
  first : Int := 1
  step : Int := 1
  place : NumberPlace := .right
  /-- One of so many blank lines in a row counts. -/
  joined : Nat := 1
  /-- What begins a section is made of these characters. -/
  delimiter : Bytes := [92, 58]
  /-- Whether sections begin with the first number again. -/
  renumber : Bool := true

structure NumberState where
  next : Int
  rule : NumberRule
  /-- How many blank lines in a row were not numbered. -/
  blanks : Nat := 0

namespace NumberStyle

def column (style : NumberStyle) (number : Int) : String :=
  let text := toString number
  let missing := style.width - text.length
  match style.place with
  | .left => text ++ String.ofList (List.replicate missing ' ')
  | .zeros =>
    let zeros := String.ofList (List.replicate missing '0')
    if number < 0 then "-" ++ zeros ++ toString (-number) else zeros ++ text
  | .right => padLeft style.width text

def number (style : NumberStyle) (state : NumberState) (line : Bytes) : NumberState × Bytes :=
  let numbered (blanks : Nat) : NumberState × Bytes :=
    ({ state with next := state.next + style.step, blanks },
      rawBytes (style.column state.next ++ style.separator) ++ line ++ [10])
  let bare (blanks : Nat) : NumberState × Bytes :=
    ({ state with blanks }, List.replicate (style.width + style.separator.utf8ByteSize) 32 ++ line ++ [10])
  match state.rule with
  | .every =>
    if !line.isEmpty || style.joined ≤ state.blanks + 1 then numbered 0 else bare (state.blanks + 1)
  | .filled => if line.isEmpty then bare state.blanks else numbered state.blanks
  | .never => bare state.blanks
  | .matching regex =>
    if (Text.Regex.find? false line.toArray regex 0).isSome then numbered state.blanks else bare state.blanks

def next (style : NumberStyle) : LineStep NumberState := fun state line _ =>
  let mark := style.delimiter
  let startSection (rule : NumberRule) : NumberState × Bytes :=
    ({ state with next := if style.renumber then style.first else state.next, rule }, [10])
  if mark.length < 2 then style.number state line
  else if line == mark ++ mark ++ mark then startSection style.header
  else if line == mark ++ mark then startSection style.body
  else if line == mark then startSection style.footer
  else style.number state line

end NumberStyle

inductive NumberOption where
  | accepted (style : NumberStyle)
  /-- It is complained about, and the options behind it are read all the same. -/
  | doubted (text : String)
  | rejected (text : String)

def numberDialect : Text.RegexDialect := { emptyRanges := true }

def readNumberRule (word : String) : Option (Except Text.RegexError NumberRule) :=
  match word.toList with
  | 'a' :: _ => some (.ok .every)
  | 't' :: _ => some (.ok .filled)
  | 'n' :: _ => some (.ok .never)
  | 'p' :: pattern =>
    some ((Text.Regex.parse numberDialect (rawBytes (String.ofList pattern))).map fun (regex, _) => .matching regex)
  | _ => none

def NumberStyle.adopt (style : NumberStyle) (letter : Char) (value : String) : NumberOption :=
  let ruled (what : String) (change : NumberRule → NumberStyle) : NumberOption :=
    match readNumberRule value with
    | none => .doubted ("invalid " ++ what ++ " numbering style: " ++ shown value)
    | some (.error e) => .rejected e.message
    | some (.ok rule) => .accepted (change rule)
  let counted (rule : QuantityRule) (change : Int → NumberStyle) : NumberOption :=
    match rule.refusal? value with
    | some refusal => .rejected refusal.message
    | none => .accepted (change (rule.value 0 (some value)))
  let signed (what : String) (least most : Int) : QuantityRule := { complaint := what, least, most, signed := true }
  match letter with
  | 'h' => ruled "header" fun header => { style with header }
  | 'b' => ruled "body" fun body => { style with body }
  | 'f' => ruled "footer" fun footer => { style with footer }
  | 'v' =>
    counted (signed "invalid starting line number" (-largestInteger - 1) largestInteger) fun first => { style with first }
  | 'i' =>
    counted (signed "invalid line number increment" (-largestInteger - 1) largestInteger) fun step => { style with step }
  | 'l' =>
    counted (signed "invalid line number of blank lines" 1 largestInteger) fun joined =>
      { style with joined := joined.toNat }
  | 'w' =>
    counted (signed "invalid line number field width" 1 2147483647) fun width => { style with width := width.toNat }
  | 's' => .accepted { style with separator := value }
  | 'n' =>
    match value with
    | "ln" => .accepted { style with place := .left }
    | "rn" => .accepted { style with place := .right }
    | "rz" => .accepted { style with place := .zeros }
    | _ => .doubted ("invalid line numbering format: " ++ shown value)
  | 'd' =>
    let bytes := rawBytes value
    .accepted { style with delimiter := if bytes.length = 1 then bytes ++ [58] else bytes }
  | 'p' => .accepted { style with renumber := false }
  | _ => .accepted style

def numberLines : Utility := fun invocation =>
  let table : OptionTable := {
    flags := ['p'], valued := ['b', 'w', 's', 'n', 'v', 'i', 'h', 'f', 'l', 'd']
    long := [("header-numbering", 'h'), ("body-numbering", 'b'), ("footer-numbering", 'f'),
      ("starting-line-number", 'v'), ("line-increment", 'i'), ("no-renumber", 'p'), ("join-blank-lines", 'l'),
      ("number-separator", 's'), ("number-width", 'w'), ("number-format", 'n'), ("section-delimiter", 'd')] }
  let (options, fault) := readArguments table {} invocation.arguments
  let rec adoptAll (style : NumberStyle) (doubted : Bool) : List (Char × String) → Program
    | [] =>
      match fault with
      | some e => refuse invocation e.message
      | none =>
        if doubted then
          Program.complain ("Try '" ++ invocation.name ++ " --help' for more information.\n") fun _ => .exitWith 1
        else
          eachLine invocation 10 style.next (fun operand text => pathText operand ++ ": " ++ text)
            (fun _ failed => .exitWith (if failed then 1 else 0)) { next := style.first, rule := style.body } false
            (operandsOrInput options.operands)
    | (letter, value) :: rest =>
      if letter = helpLetter || letter = versionLetter then .exitWith 0
      else
        match style.adopt letter value with
        | .accepted style => adoptAll style doubted rest
        | .doubted text => warn invocation text fun _ => adoptAll style true rest
        | .rejected text => fail invocation text
  adoptAll {} false options.given

end PipeShell.Utility
