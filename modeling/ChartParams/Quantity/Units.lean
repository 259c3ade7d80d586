import ChartParams.Numeric.Layout
import ChartParams.Quantity.Basic

/-!
# Units of quantities

Memory is counted in whole mebi, storage in whole gibi units and processors in fractions of a core.
-/

namespace ChartParams

inductive BinaryUnit
  | mebi
  | gibi
deriving DecidableEq

namespace BinaryUnit

def suffix : BinaryUnit → String
  | mebi => "Mi"
  | gibi => "Gi"

def scale : BinaryUnit → Int
  | mebi => 0x10_0000
  | gibi => 0x4000_0000

def write (unit : BinaryUnit) (count : Int64) : String := toString count.toInt ++ unit.suffix

def read (overflow : Quantity.Overflow) (unit : BinaryUnit) (text : String) :
    Except Quantity.Error Int64 := do
  let quantity ← Quantity.parse overflow text
  let value ← quantity.value overflow
  .ok (Int64.ofInt (value.toInt.tdiv unit.scale))

end BinaryUnit

namespace Cores

def read (overflow : Quantity.Overflow) (text : String) : Except Quantity.Error Binary64 := do
  let quantity ← Quantity.parse overflow text
  let thousandths ← quantity.milliValue overflow
  .ok ((Binary64.ofInt thousandths.toInt).div (.ofInt 1000))

def write (count : Binary64) : String := Layout.general.text count

end Cores

end ChartParams
