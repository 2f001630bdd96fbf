import SpringAudit.Text.Integer

/-!
# Options on the command line

Options may stand anywhere, and the last of several with one name counts.  A
value follows its option after an equals sign or as the next argument, whatever
that looks like.  Everything after a double dash is no option, and neither is a
single dash.  One argument that is no option names the project.
-/

namespace SpringAudit

/-- What options and arguments say. -/
structure Options where
  format : Text := "lines"
  /-- The limit on source files as it is written. -/
  writtenLimit : Option Text := none
  unguardedOnly : Bool := false
  isVerbose : Bool := false
  projects : List Text := []

/-- A command line that cannot be understood. -/
inductive UsageError where
  | unknownOption (name : Text)
  | missingValue (name : Text)
  | unexpectedValue (name : Text)
  | badInteger (value : Text)
  | unexpectedArgument (argument : Text)
  | unknownFormat (format : Text)

/-- The options with a value. -/
inductive ValueOption where
  | format
  | maxFiles

/-- The options without a value. -/
inductive Switch where
  | unguarded
  | verbose

/-- An option with a long name. -/
inductive LongOption where
  | value (option : ValueOption)
  | switch (option : Switch)

/-- The long names of options. -/
def longOptions : List (Text × LongOption) :=
  [("--format", .value .format), ("--max-files", .value .maxFiles),
    ("--unguarded", .switch .unguarded), ("--verbose", .switch .verbose)]

/-- The letters of options. -/
def shortOptions : List (CodePoint × Switch) :=
  [('v', .verbose)]

namespace Options

/-- The options with a value set. -/
def setValue (options : Options) (option : ValueOption) (value : Text) : Options :=
  match option with
  | .format => { options with format := value }
  | .maxFiles => { options with writtenLimit := some value }

/-- The options with a switch on. -/
def turnOn (options : Options) : Switch → Options
  | .unguarded => { options with unguardedOnly := true }
  | .verbose => { options with isVerbose := true }

/-- The options with an argument that is none. -/
def addProject (options : Options) (argument : Text) : Options :=
  { options with projects := options.projects ++ [argument] }

/-- The options with the switches of several letters on. -/
def turnOnLetters (options : Options) : Text → Except UsageError Options
  | [] => .ok options
  | letter :: rest =>
    match shortOptions.lookup letter with
    | some switch => (options.turnOn switch).turnOnLetters rest
    | none => .error (.unknownOption ("-" ++ [letter]))

/-- Splits an argument at its first equals sign, if there is one. -/
def splitValue (argument : Text) : Text × Option Text :=
  let name : Text := argument.takeWhile fun c : CodePoint => decide (c ≠ '=')
  match argument.drop name.length with
  | [] => (name, none)
  | _ :: value => (name, some value)

/-- Whether an argument is an option; a single dash is none. -/
def isOption (argument : Text) : Bool :=
  argument.startsWith "-" && decide (1 < argument.length)

/-- Reads arguments one after another. -/
def read : Options → List Text → Except UsageError Options
  | options, [] => .ok options
  | options, argument :: rest =>
    if argument = ("--" : Text) then .ok (rest.foldl addProject options)
    else if !isOption argument then read (options.addProject argument) rest
    else
      let (name, attached) := splitValue argument
      match longOptions.lookup name with
      | some (.value option) =>
        match attached with
        | some value => read (options.setValue option value) rest
        | none =>
          match rest with
          | value :: more => read (options.setValue option value) more
          | [] => .error (.missingValue name)
      | some (.switch switch) =>
        if attached.isNone then read (options.turnOn switch) rest
        else .error (.unexpectedValue name)
      | none =>
        if argument.startsWith "--" then .error (.unknownOption name)
        else do read (← options.turnOnLetters (argument.drop 1)) rest

/-- The options of a command line. -/
def ofArguments (arguments : List Text) : Except UsageError Options :=
  read {} arguments

/-- The limit on source files, if there is one. -/
def limit (options : Options) : Except UsageError (Option Int) :=
  match options.writtenLimit with
  | none => .ok none
  | some written =>
    match written.toWholeNumber? with
    | some n => .ok (some n)
    | none => .error (.badInteger written)

/-- The project that the command line names, if it names one. -/
def project? (options : Options) : Except UsageError (Option Text) :=
  match options.projects with
  | [] => .ok none
  | [only] => .ok (some only)
  | _ :: second :: _ => .error (.unexpectedArgument second)

end Options

end SpringAudit
