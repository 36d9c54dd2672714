import SubpathCsi.Failure
import SubpathCsi.Shell.Quote
import SubpathCsi.Text.Blank
import SubpathCsi.Text.Split

/-!
# Format options

Format options are written `a=b,c`: keys with or without a value, between commas. As arguments of a
command they become flags `--a=b` and `--c`, quoted for the shell. The values of secret options are
left out: `--token=${token}` lets the shell put the value in.
-/

namespace SubpathCsi.FormatOptions

/-- The key and the value that one option writes, blanks around both removed; none if there is no
key. A value that is written has to hold something. -/
def option? (whole : String) (part : List Char) : Except Failure (Option (String × String)) :=
  let part := Text.trim part
  match Text.cutFirst? '=' part with
  | none => .ok (if part.isEmpty then none else some (String.ofList part, ""))
  | some (_, []) => badArgument (.formatOptions whole)
  | some (key, value) =>
    let key := Text.trim key
    .ok (if key.isEmpty then none
      else some (String.ofList key, String.ofList (Text.trim value)))

/-- The keys and values that format options write, in order. -/
def parse (text : String) : Except Failure (List (String × String)) := do
  let parts ← (Text.splitAt ',' text.toList).mapM (option? text)
  return parts.filterMap id

/-- The flag of an option. -/
def flag (option : String × String) : String :=
  if option.2.isEmpty then "--" ++ Shell.quote option.1
  else "--" ++ Shell.quote option.1 ++ "=" ++ Shell.quote option.2

/-- The flag of an option whose value the shell puts in. -/
def referenceFlag (key : String) : String :=
  "--" ++ Shell.quote key ++ "=$\x7b" ++ key ++ "\x7d"

/-- The flags of options, the values of `secretKeys` left out. -/
def flags (secretKeys : List String) (options : List (String × String)) : List String :=
  options.map fun o =>
    if !o.2.isEmpty && secretKeys.contains o.1 then referenceFlag o.1 else flag o

end SubpathCsi.FormatOptions
