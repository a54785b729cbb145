import ScopedConfig.FilePath

/-! The agent that a configuration is evaluated on: the node it runs on, the name
of its program, and the directories it uses. -/
namespace ScopedConfig

/-- The directories of an agent. -/
structure AgentPaths where
  root : FilePath
  bin : FilePath
  var : FilePath
  log : FilePath
  etc : FilePath
  tmp : FilePath
  doc : FilePath
  html : FilePath
  lock : FilePath
  deriving DecidableEq, Repr

namespace AgentPaths

/-- The directories that a program has by default. -/
def ofProgram (program : Text) : AgentPaths :=
  let var := FilePath.join "/var/lib" program
  { root := "/"
    bin := "/usr/bin"
    var
    log := FilePath.join "/var/log" program
    etc := FilePath.join "/etc" program
    tmp := FilePath.join "/var/tmp" program
    doc := FilePath.join "/usr/share/doc" program
    html := FilePath.join (FilePath.join "/usr/share" program) "html"
    lock := FilePath.join var "lock" }

/-- The directories below one root. -/
def below (root : FilePath) : AgentPaths :=
  { root
    bin := FilePath.join root "bin"
    var := FilePath.join root "var"
    log := FilePath.join root "log"
    etc := FilePath.join root "etc"
    tmp := FilePath.join root "tmp"
    doc := FilePath.join root "share/doc"
    html := FilePath.join root "share/html"
    lock := FilePath.join root "var/lock" }

end AgentPaths

/-- What an evaluation needs to know of the agent. -/
structure Agent where
  nodeName : Text
  program : Text
  paths : AgentPaths
  deriving DecidableEq, Repr

/-- The part of a host name before the first dot. -/
def shortName (name : Text) : Text := name.takeWhile (· ≠ '.')

namespace Agent

/-- The name of the program by default. -/
def defaultProgram : Text := "osa"

/-- The agent of a node, with the default program and its directories. -/
def ofNode (nodeName : Text) : Agent :=
  ⟨nodeName, defaultProgram, .ofProgram defaultProgram⟩

/-- The agent of which nothing is known. -/
def default : Agent := ofNode "localhost"

/-- The agent under another program name, with the directories of that program. -/
def withProgram (agent : Agent) (program : Text) : Agent :=
  { agent with program, paths := .ofProgram program }

/-- The command that manages objects. -/
def objectManager (agent : Agent) : Text := agent.program ++ " svc"

/-- The command that manages the node. -/
def nodeManager (agent : Agent) : Text := agent.program ++ " node"

end Agent
end ScopedConfig
