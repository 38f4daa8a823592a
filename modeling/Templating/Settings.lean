/-!
# Settings

What a run of the generator can be told: the version that the banner shows and
the path under which generated code finds the runtime library.
-/

namespace Templating

/-- The runtime library unless told otherwise. -/
def defaultRuntimePath : String := "::tempera_canvas"

structure Settings where
  version : Option String := none
  runtimePath : String := defaultRuntimePath
  deriving DecidableEq, Repr

namespace Settings

instance : Inhabited Settings := ⟨⟨none, defaultRuntimePath⟩⟩

/-- The version in the banner. -/
def bannerVersion (settings : Settings) : String :=
  settings.version.getD "unknown"

def withVersion (settings : Settings) (version : String) : Settings :=
  { settings with version := some version }

end Settings

end Templating
