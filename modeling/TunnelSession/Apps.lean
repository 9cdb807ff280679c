import TunnelSession.Settings.Basic

/-!
Applications that may be excluded from the tunnel: all installed ones but the system's own. The
excluded come first, then each group goes by name, and what is equal in both keeps its order.
-/
namespace TunnelSession

structure InstalledApp where
  name : String
  id : String
  system : Bool
  deriving DecidableEq, Repr

structure EligibleApp where
  name : String
  id : String
  deriving DecidableEq, Repr

namespace EligibleApp

def ofInstalled (app : InstalledApp) : EligibleApp :=
  ⟨app.name, app.id⟩

/-- Whether `a` may stand before `b` in a listing. -/
def before (excluded : AppSet) (a b : EligibleApp) : Bool :=
  match excluded.contains a.id, excluded.contains b.id with
  | true, false => true
  | false, true => false
  | _, _ => a.name ≤ b.name

end EligibleApp

def eligibleApps (installed : List InstalledApp) (excluded : AppSet) : List EligibleApp :=
  ((installed.filter (!·.system)).map .ofInstalled).mergeSort (EligibleApp.before excluded)

end TunnelSession
