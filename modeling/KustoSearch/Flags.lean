import KustoSearch.Config

/-! # Command-line settings

Settings that are given when the program is started. They go before those of the configuration; a
flag takes its value from the next argument or after an equals sign, and may come once.
-/

namespace KustoSearch

/-- A setting of the command line. -/
inductive Flag where
  /-- The configuration document. -/
  | config
  /-- The address to listen on. -/
  | bind
  | clusterUrl
  | database
  | token
deriving DecidableEq, Repr

namespace Flag

/-- All settings. -/
def all : List Flag := [.config, .bind, .clusterUrl, .database, .token]

/-- The name of a setting. -/
def name : Flag → String
  | .config => "--config"
  | .bind => "--bind"
  | .clusterUrl => "--cluster-url"
  | .database => "--database"
  | .token => "--token"

/-- The environment variable that stands in for a setting. -/
def variableName : Flag → String
  | .config => "KQLBRIDGE_CONFIG"
  | .bind => "KQLBRIDGE_BIND"
  | .clusterUrl => "KUSTO_CLUSTER_URL"
  | .database => "KUSTO_DATABASE"
  | .token => "KUSTO_TOKEN"

/-- The setting of a name; one of them has a short name too. -/
def ofName? (s : String) : Option Flag :=
  if s = "-c" then some .config else all.find? fun flag => flag.name = s

end Flag

/-- Why a command line cannot be followed. -/
inductive FlagProblem where
  | unknown (argument : String)
  | repeated (flag : Flag)
  | noValue (flag : Flag)
deriving DecidableEq, Repr

/-- The wording of a problem. -/
def FlagProblem.message : FlagProblem → String
  | .unknown argument => "unexpected argument " ++ argument
  | .repeated flag => flag.name ++ " is given more than once"
  | .noValue flag => flag.name ++ " needs a value"

/-- The settings of a command line, and the arguments that are none. -/
structure Flags where
  values : List (Flag × String)
  arguments : List String
deriving DecidableEq, Repr

namespace Flags

/-- Nothing set. -/
def empty : Flags := ⟨[], []⟩

/-- The value of a setting. -/
def get? (flags : Flags) (flag : Flag) : Option String := flags.values.lookup flag

/-- Sets a value that is not set yet. -/
def set? (flags : Flags) (flag : Flag) (value : String) : Except FlagProblem Flags :=
  match flags.get? flag with
  | some _ => .error (.repeated flag)
  | none => .ok { flags with values := (flag, value) :: flags.values }

/-- The name and the value of an argument with an equals sign. -/
def splitValue? (argument : String) : Option (String × String) :=
  (Text.splitAt? ['='] argument.toList).map fun (name, value) =>
    (String.ofList name, String.ofList value)

/-- Takes arguments in from the left. -/
def readFrom (flags : Flags) : List String → Except FlagProblem Flags
  | [] => .ok flags
  | argument :: rest =>
    match Flag.ofName? argument with
    | some flag =>
      match rest with
      | [] => .error (.noValue flag)
      | value :: rest =>
        match flags.set? flag value with
        | .ok flags => flags.readFrom rest
        | .error problem => .error problem
    | none =>
      if argument.toList.head? = some '-' then
        match (splitValue? argument).bind fun (n, v) => (Flag.ofName? n).map fun f => (f, v) with
        | none => .error (.unknown argument)
        | some (flag, value) =>
          match flags.set? flag value with
          | .ok flags => flags.readFrom rest
          | .error problem => .error problem
      else { flags with arguments := flags.arguments ++ [argument] }.readFrom rest

/-- The settings of a command line. -/
def read (arguments : List String) : Except FlagProblem Flags := readFrom .empty arguments

/-- The configuration with the settings of the command line in place of its own. -/
def apply (flags : Flags) (config : Config) : Config where
  server := { config.server with
    bindAddress := (flags.get? .bind).getD config.server.bindAddress }
  cluster := { config.cluster with
    url := (flags.get? .clusterUrl).getD config.cluster.url
    database := (flags.get? .database).getD config.cluster.database
    token := (flags.get? .token).or config.cluster.token }
  retry := config.retry
  observability := config.observability

end Flags

end KustoSearch
