import ChartParams.Error
import ChartParams.Logged

/-!
# Notices

What is worth reporting although nothing failed: values of a document that cannot be read, and
values of a parameter list that no schema entry knows.
-/

namespace ChartParams

inductive Notice
  | badInteger (path text : String)
  | badFloat (path text : String)
  | badEnvironment (path : String) (fault : FormatFault)
  | badQuantity (path : String) (error : Quantity.Error)
  | badStorage (path : String) (fault : FormatFault)
  | badDefault (name : String) (error : Error)
  | unknownParameter (name : String)
  | unknownRole (name : String)
  | unknownStorage (name : String)

namespace Notice

/-- Whether data was lost. The other notices are for debugging. -/
def isWarning : Notice → Bool
  | badInteger .. | badFloat .. | badEnvironment .. | badQuantity .. | badStorage ..
  | badDefault .. => true
  | unknownParameter _ | unknownRole _ | unknownStorage _ => false

def message : Notice → String
  | badInteger path text => "failed to parse int at " ++ path ++ ": " ++ showText text
  | badFloat path text => "failed to parse float at " ++ path ++ ": " ++ showText text
  | badEnvironment path fault => "failed to decode env list at " ++ path ++ ": " ++ fault.message
  | badQuantity path error => "failed to parse quantity at " ++ path ++ ": " ++ error.message
  | badStorage path fault => "failed to decode storage at " ++ path ++ ": " ++ fault.message
  | badDefault name error => "failed to decode default for " ++ name ++ ": " ++ error.message
  | unknownParameter name => "dropping unknown parameter " ++ name
  | unknownRole name => "dropping values for unknown role " ++ name
  | unknownStorage name => "dropping unknown storage resource " ++ name

def line (notice : Notice) : String :=
  (if notice.isWarning then "WARN " else "DEBUG ") ++ notice.message

end Notice

end ChartParams
