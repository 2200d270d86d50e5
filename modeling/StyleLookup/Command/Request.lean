import StyleLookup.Command.Arguments

/-!
# Requests

What a command line asks for once its arguments fit together: there is a stylesheet, one matcher
and not more, and a format is not both named and implied by an accessor.
-/

namespace StyleLookup.Command

/-- What a command line asks for. -/
inductive Request where
  | resolve (stylesheet : String) (caller : Option String) (matcher : Matcher) (format : Format)
      (emit : Emit)
  | check (stylesheet : String) (caller : Option String)
  | version
deriving Repr, DecidableEq

/-- The matchers that are given. Flags belong to a pattern. -/
def Given.matchers (g : Given) : List Matcher :=
  (g.selector.map Matcher.selector).toList ++ (g.list.map Matcher.list).toList
    ++ (g.regex.map fun text => Matcher.pattern text (g.flags.getD "")).toList
    ++ (g.map.map Matcher.map).toList

/-- The format that is given, or implied. -/
def Given.chosenFormat (g : Given) : Except UsageFault Format :=
  match g.format, g.accessor with
  | some _, some _ => .error .misused
  | some format, none => .ok format
  | none, accessor => .ok (Format.ofAccessor accessor)

/-- The request to resolve that arguments make up. -/
def Given.resolveRequest (g : Given) : Except UsageFault Request :=
  match g.stylesheet, g.matchers with
  | some stylesheet, [matcher] =>
      g.chosenFormat.map fun format =>
        .resolve stylesheet g.caller matcher format (g.emit.getD .js)
  | _, _ => .error .misused

/-- The request to check that arguments make up. -/
def Given.checkRequest (g : Given) : Except UsageFault Request :=
  match g.stylesheet with
  | some stylesheet => .ok (.check stylesheet g.caller)
  | none => .error .misused

/--
Whether an argument in place of a subcommand asks for the version. Of letters behind one dash the
first decides.
-/
def asksForVersion (argument : String) : Bool :=
  argument == "--version" || ['-', 'V'].isPrefixOf argument.toList

/-- The request of a command line. -/
def Request.ofArguments : List String → Except UsageFault Request
  | "resolve" :: arguments =>
      match Given.ofArguments resolveOptions arguments with
      | .error fault => .error fault
      | .ok g => g.resolveRequest
  | "check" :: arguments =>
      match Given.ofArguments checkOptions arguments with
      | .error fault => .error fault
      | .ok g => g.checkRequest
  | argument :: _ => if asksForVersion argument then .ok .version else .error .misused
  | [] => .error .misused

end StyleLookup.Command
