import CodeGraph.Command.Options
import CodeGraph.Graph.Remote
import CodeGraph.Run.Pipeline
import CodeGraph.Settings.File

/-! # Settings

Everything that a run needs to know. The command line and the environment come first, then the
settings file, then what holds if nothing is said. -/

namespace CodeGraph

/-- The settings of a run. -/
structure Settings where
  run : RunConfig
  store : RemoteConfig
  deriving BEq, DecidableEq, Repr, Inhabited

namespace Settings

/-- The repository if none is named. -/
def defaultRoot : String := "repo"

/-- The settings of a run. An older environment variable gives the name of the user where neither
the command line nor the newer variable does. -/
def resolve (options : IngestOptions) (file : FileSettings) (olderUser : Option String) :
    Settings :=
  let defaults : RemoteConfig := {}
  { run := {
      root := (options.root.or file.source.root).getD defaultRoot
      extensions := file.source.extensions.getD sourceExtensions
      ignoring := !options.noIgnore && file.source.ignoring.getD true
      tolerant := options.tolerant || file.source.tolerant.getD false }
    store := {
      uri := (options.uri.or file.store.uri).getD defaults.uri
      username := ((options.username.or olderUser).or file.store.username).getD defaults.username
      password := (options.password.or file.store.password).getD defaults.password
      database := (options.database.or file.store.database).getD defaults.database
      maxRetries := file.store.maxRetries.getD defaults.maxRetries
      timeoutSeconds := file.store.timeoutSeconds.getD defaults.timeoutSeconds } }

end Settings

end CodeGraph
