import AbiBindings.Abi.NumberClass
import AbiBindings.Diagnostic

/-!
# Violated platform assumptions

Bindings are generated only for platforms on which every native value has a Julia counterpart and
the library's enumerations are as wide as an `int`. A violation says which assumption failed; it is
never recovered from.
-/

namespace AbiBindings

/-- A condition that was checked and did not hold, with the place of the check. -/
structure Assertion where
  expr : String
  function : String
  file : String
  line : Nat
  deriving DecidableEq

inductive Violation where
  /-- No built-in type of the class has this size in bytes. -/
  | unrepresentableWidth (size : Nat) (cls : NumberClass)
  | assertion (failed : Assertion)
  deriving DecidableEq

namespace Violation

def message : Violation → String
  | unrepresentableWidth size cls =>
    "no built-in " ++ cls.name ++ " type is " ++ toString size ++ " byte(s) wide"
  | assertion a =>
    "assertion `" ++ a.expr ++ "` failed in " ++ a.function ++
      " (" ++ a.file ++ ":" ++ toString a.line ++ ")"

/-- The stable code by which reports name the kind of violation. -/
def code : Violation → String
  | unrepresentableWidth .. => "taodeps::abi::unrepresentable_width"
  | assertion _ => "taodeps::abi::assertion"

def help : Violation → String
  | unrepresentableWidth .. =>
    "the target platform uses a native width the bindings cannot express"
  | assertion _ => "the native library was built with a layout the bindings do not support"

/-- Widths as they are listed for the user: in brackets, separated by commas. -/
def widthList (widths : List Nat) : String :=
  "[" ++ String.intercalate ", " (widths.map toString) ++ "]"

def toDiagnostic : Violation → Diagnostic
  | unrepresentableWidth size cls =>
    Diagnostic.new .error
        ("unrepresentable " ++ cls.name ++ " width of " ++ toString size ++ " byte(s)")
      |>.add (.context ("known " ++ cls.name ++ " widths: " ++ widthList cls.widths))
      |>.add (.suggestion "Generate the bindings on a platform with standard C type widths")
  | assertion a =>
    Diagnostic.new .error ("assertion `" ++ a.expr ++ "` failed in " ++ a.function)
      |>.add (.location (a.file ++ ":" ++ toString a.line))
      |>.add (.context "no bindings were written")
      |>.add (.suggestion "Check that the TAO library matches the installed headers")

end Violation

end AbiBindings
