/-!
# Settings of the generator

What the user can choose: how the library and its Julia module are called, how the generated file
looks, and how much is logged.
-/

namespace AbiBindings

structure LibrarySettings where
  /-- The display name of the library. -/
  name : String := "TAO"
  /-- Where the bindings load the library from. -/
  path : String := "/usr/local/lib/libtao.so"
  /-- The Julia module that the bindings are included in. -/
  juliaModule : String := "TaoBindings"
  /-- The constant that holds the path. -/
  pathConstant : String := "taolib"
  deriving DecidableEq

structure OutputSettings where
  /-- The name of the generated file, shown in its header. -/
  fileName : String := "deps.jl"
  /-- The number of types in a row of a long list; zero keeps lists in one row. -/
  itemsPerLine : Nat := 5
  deriving DecidableEq

structure LogSettings where
  /-- The name of the least severe level that is logged. -/
  level : String := "warn"
  deriving DecidableEq

structure Settings where
  library : LibrarySettings := {}
  output : OutputSettings := {}
  log : LogSettings := {}
  deriving DecidableEq

namespace Settings

def default : Settings := {}

/-- The directives of the log: the library and the program share one level. -/
def logFilter (s : Settings) : String :=
  "taodeps=" ++ s.log.level ++ ",gendeps=" ++ s.log.level

end Settings

end AbiBindings
