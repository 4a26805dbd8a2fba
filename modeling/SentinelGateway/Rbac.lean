import SentinelGateway.Config

/-!
# Role-based access control

The decision of `auth/rbac.rs`, from the role's entry in the configuration.
-/

namespace SentinelGateway

/-- `Permission`. -/
inductive Permission where
  | read
  | execute
  deriving DecidableEq

/-- `Permission::required_permission_str`. -/
def Permission.requiredPermissionStr : Permission → String
  | .read => "tools.read"
  | .execute => "tools.execute"

/-- `is_tool_allowed`: a deny entry wins over every permission, and the right to
execute includes the right to read. -/
def isToolAllowed (role toolName : String) (permission : Permission) (rbac : RbacConfig) : Bool :=
  match rbac.roles.lookup role with
  | none => false
  | some roleConfig =>
    if toolName ∈ roleConfig.deniedTools then false
    else if "*" ∈ roleConfig.permissions then true
    else if permission.requiredPermissionStr ∈ roleConfig.permissions then true
    else if permission = .read ∧ "tools.execute" ∈ roleConfig.permissions then true
    else false

end SentinelGateway
