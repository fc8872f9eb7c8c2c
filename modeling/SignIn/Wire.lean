import SignIn.Account
import SignIn.Calendar
import SignIn.Passcode
import SignIn.Service.Answers
import SignIn.Settings

/-! JSON forms of what is handed out. A user's password hash is not. -/

namespace SignIn

namespace Json

def ofOption {α : Type} (f : α → Json) : Option α → Json
  | none => .null
  | some a => f a

def stringOrNull : Option String → Json := ofOption .string

def instant (t : Int) : Json := .string (Instant.text t)

def int64 (n : Int64) : Json := .int n.toInt

end Json

def User.toJson (u : User) : Json :=
  .members [
    ("id", .int64 u.id),
    ("phone_number", .stringOrNull u.phone),
    ("email", .stringOrNull u.email),
    ("name", .string u.name),
    ("role_id", .int64 u.roleId),
    ("phone_verified_at", .ofOption .instant u.phoneVerifiedAt),
    ("email_verified_at", .ofOption .instant u.emailVerifiedAt),
    ("created_at", .instant u.createdAt),
    ("updated_at", .instant u.updatedAt)]

def Role.toJson (r : Role) : Json :=
  .members [("id", .int64 r.id), ("name", .string r.name), ("description", .stringOrNull r.description)]

def Session.toJson (s : Session) : Json :=
  .members [
    ("jti", .string s.jti),
    ("user_id", .int64 s.userId),
    ("role_id", .int64 s.roleId),
    ("user_agent", .string s.userAgent),
    ("ip", .string s.ip),
    ("created_at", .instant s.createdAt)]

def Passcode.toJson (p : Passcode) : Json :=
  .members [
    ("code", .string p.code),
    ("purpose", .string p.channel.name),
    ("address", .string p.address),
    ("user_id", .int64 p.userId),
    ("created_at", .instant p.createdAt),
    ("expires_at", .instant p.expiresAt)]

def TokenPair.toJson (p : TokenPair) : Json :=
  .members [("access_token", .string p.access), ("refresh_token", .string p.refresh), ("jti", .string p.jti)]

def Registered.toJson (r : Registered) : Json :=
  .members [
    ("id", .int64 r.id),
    ("name", .string r.name),
    ("role_name", .string r.roleName),
    ("otp_expires_at", .instant r.codeExpiresAt)]

def LoggedIn.toJson (l : LoggedIn) : Json :=
  .members [
    ("id", .int64 l.id),
    ("name", .string l.name),
    ("role_id", .int64 l.roleId),
    ("role_name", .string l.roleName),
    ("access_token", .string l.tokens.access),
    ("refresh_token", .string l.tokens.refresh),
    ("jti", .string l.tokens.jti)]

def CodeSent.toJson (c : CodeSent) : Json := .members [("otp_expires_at", .instant c.expiresAt)]

def SessionView.toJson (v : SessionView) : Json :=
  .members [
    ("jti", .string v.jti),
    ("user_id", .int64 v.userId),
    ("user_name", .string v.userName),
    ("user_email", .stringOrNull v.userEmail),
    ("user_phone_number", .stringOrNull v.userPhone),
    ("role_id", .int64 v.roleId),
    ("user_agent", .string v.userAgent),
    ("ip", .string v.ip),
    ("created_at", .instant v.createdAt)]

def Identity.toJson (i : Identity) : Json :=
  .members [
    ("user_id", .int64 i.userId),
    ("user_name", .string i.userName),
    ("role_id", .int64 i.roleId),
    ("jti", .string i.jti)]

def Profile.toJson (p : Profile) : Json :=
  .members [
    ("id", .int64 p.id),
    ("name", .string p.name),
    ("email", .stringOrNull p.email),
    ("phone_number", .stringOrNull p.phone),
    ("role_name", .string p.roleName)]

def Settings.toJson (s : Settings) : Json :=
  .members [
    ("environment", .string s.environment),
    ("database", .members [
      ("url", .string s.database.url),
      ("max_connections", .int s.database.maxConnections.toNat),
      ("connect_timeout_secs", .int s.database.connectTimeoutSecs.toNat)]),
    ("auth", .members [
      ("jwt_secret", .string s.auth.secret),
      ("issuer", .string s.auth.issuer),
      ("access_token_ttl_minutes", .int64 s.auth.accessTtlMinutes),
      ("refresh_token_ttl_hours", .int64 s.auth.refreshTtlHours),
      ("otp_ttl_minutes", .int64 s.auth.codeTtlMinutes),
      ("default_role_id", .int64 s.auth.defaultRole),
      ("sweep_interval_secs", .int s.auth.sweepIntervalSecs.toNat)]),
    ("notifications", .members [
      ("service_name", .string s.notifications.serviceName),
      ("smsc_host", .stringOrNull s.notifications.smscHost),
      ("smsc_user", .stringOrNull s.notifications.smscUser),
      ("smsc_password", .stringOrNull s.notifications.smscPassword),
      ("mail_from", .stringOrNull s.notifications.mailFrom)])]

end SignIn
