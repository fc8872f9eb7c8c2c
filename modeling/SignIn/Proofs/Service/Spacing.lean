import Mathlib.Data.List.Forall2
import SignIn.Proofs.Service.Newcomer
import SignIn.Proofs.Service.Script

/-! Blanks around what callers write are of no account. -/

namespace SignIn

/-- The same registration, with blanks around what is written in it. -/
structure Registration.Spaced (r r' : Registration) : Prop where
  name : Text.Spaced r.name r'.name
  email : Text.MaybeSpaced r.email r'.email
  phone : Text.MaybeSpaced r.phone r'.phone
  password : r'.password = r.password
  confirmBy : Text.Spaced r.confirmBy r'.confirmBy

structure Credentials.Spaced (c c' : Credentials) : Prop where
  email : Text.MaybeSpaced c.email c'.email
  phone : Text.MaybeSpaced c.phone c'.phone
  password : c'.password = c.password

/-- The same call, with blanks around what is written in it. -/
inductive Call.Spaced : Call → Call → Prop
  | same (c : Call) : Spaced c c
  | register {r r'} : r.Spaced r' → Spaced (.register r) (.register r')
  | login {c c'} (ip userAgent : String) : c.Spaced c' → Spaced (.login c ip userAgent) (.login c' ip userAgent)
  | sendCode {a a'} (channel : Channel) : Text.Spaced a a' → Spaced (.sendCode channel a) (.sendCode channel a')
  | confirm {a a' x x'} (channel : Channel) : Text.Spaced a a' → Text.Spaced x x' →
    Spaced (.confirm channel a x) (.confirm channel a' x')

inductive Event.Spaced : Event → Event → Prop
  | same (e : Event) : Spaced e e
  | call {c c'} : c.Spaced c' → Spaced (.call c) (.call c')

/-- The same answer, to the same call but for blanks. -/
inductive Reply.Echoes : Reply → Reply → Prop
  | same (r : Reply) : Echoes r r
  | register {r r'} (answer : Option (Except ServiceError Registered)) : r.Spaced r' →
    Echoes ⟨.register r, answer⟩ ⟨.register r', answer⟩
  | login {c c'} (ip userAgent : String) (answer : Option (Except ServiceError LoggedIn)) : c.Spaced c' →
    Echoes ⟨.login c ip userAgent, answer⟩ ⟨.login c' ip userAgent, answer⟩
  | sendCode {a a'} (channel : Channel) (answer : Option (Except ServiceError CodeSent)) : Text.Spaced a a' →
    Echoes ⟨.sendCode channel a, answer⟩ ⟨.sendCode channel a', answer⟩
  | confirm {a a' x x'} (channel : Channel) (answer : Option (Except ServiceError Unit)) : Text.Spaced a a' →
    Text.Spaced x x' → Echoes ⟨.confirm channel a x, answer⟩ ⟨.confirm channel a' x', answer⟩

variable {s : Service} {src : Sources} {w : World Directory}

theorem Registration.Spaced.form_eq {r r' : Registration} (h : r.Spaced r') : r'.form = r.form := by
  unfold form
  rw [Text.filled?_of_spaced h.name, Text.bind_filled?_of_maybeSpaced h.email,
    Text.bind_filled?_of_maybeSpaced h.phone, Text.trim_of_spaced h.confirmBy, h.password]

theorem Registration.Spaced.perform_eq {r r' : Registration} (h : r.Spaced r') :
    w.perform s src (.register r') = w.perform s src (.register r) := by
  show (s.register r').run.run (World.answer src) w = (s.register r).run.run (World.answer src) w
  rw [Service.register_eq, Service.register_eq, h.form_eq, h.password]

theorem Credentials.Spaced.perform_eq {c c' : Credentials} (h : c.Spaced c') (ip userAgent : String) :
    w.perform s src (.login c' ip userAgent) = w.perform s src (.login c ip userAgent) := by
  have hlogin : s.login c' ip userAgent = s.login c ip userAgent := by
    unfold Service.login
    rw [Text.bind_filled?_of_maybeSpaced h.email, Text.bind_filled?_of_maybeSpaced h.phone, h.password]
  show (s.login c' ip userAgent).run.run (World.answer src) w = (s.login c ip userAgent).run.run (World.answer src) w
  rw [hlogin]

theorem World.perform_sendCode_of_spaced {a a' : String} (h : Text.Spaced a a') (channel : Channel) :
    w.perform s src (.sendCode channel a') = w.perform s src (.sendCode channel a) := by
  have hsend : s.sendCode channel a' = s.sendCode channel a := by
    unfold Service.sendCode
    rw [Text.filled?_of_spaced h]
  show (s.sendCode channel a').run.run (answer src) w = (s.sendCode channel a).run.run (answer src) w
  rw [hsend]

theorem World.perform_confirm_of_spaced {a a' x x' : String} (ha : Text.Spaced a a') (hx : Text.Spaced x x')
    (channel : Channel) : w.perform s src (.confirm channel a' x') = w.perform s src (.confirm channel a x) := by
  have hconfirm : Service.confirm channel a' x' = Service.confirm channel a x := by
    unfold Service.confirm
    rw [Text.filled?_of_spaced ha, Text.filled?_of_spaced hx]
  show (Service.confirm channel a' x').run.run (answer src) w = (Service.confirm channel a x).run.run (answer src) w
  rw [hconfirm]

theorem Call.Spaced.echoes {c c' : Call} (h : c.Spaced c') :
    Reply.Echoes ⟨c, (w.perform s src c).1⟩ ⟨c', (w.perform s src c').1⟩ := by
  cases h with
  | same => exact .same _
  | register h =>
    rw [h.perform_eq]
    exact .register _ h
  | login ip userAgent h =>
    rw [h.perform_eq]
    exact .login _ _ _ h
  | sendCode channel h =>
    rw [World.perform_sendCode_of_spaced h]
    exact .sendCode _ _ h
  | confirm channel ha hx =>
    rw [World.perform_confirm_of_spaced ha hx]
    exact .confirm _ _ ha hx

theorem Call.Spaced.perform_snd {c c' : Call} (h : c.Spaced c') :
    (w.perform s src c').2 = (w.perform s src c).2 := by
  cases h with
  | same => rfl
  | register h => rw [h.perform_eq]
  | login ip userAgent h => rw [h.perform_eq]
  | sendCode channel h => rw [World.perform_sendCode_of_spaced h]
  | confirm channel ha hx => rw [World.perform_confirm_of_spaced ha hx]

namespace World

/-- Blanks around what an event brings change nothing of what comes of it. -/
theorem next_of_spaced {e e' : Event} (h : e.Spaced e') : w.next s src e' = w.next s src e := by
  cases h with
  | same => rfl
  | call h => exact h.perform_snd

theorem released_of_spaced {e e' : Event} (h : e.Spaced e') : w.released e' = w.released e := by
  cases h <;> rfl

theorem replies_of_spaced {e e' : Event} (h : e.Spaced e') {es es' : List Event}
    (ih : List.Forall₂ Reply.Echoes ((w.next s src e).replies s src es) ((w.next s src e).replies s src es')) :
    List.Forall₂ Reply.Echoes (w.replies s src (e :: es)) (w.replies s src (e' :: es')) := by
  rw [replies, replies, next_of_spaced h]
  cases h with
  | same =>
    apply List.rel_append
    · exact List.forall₂_same.2 fun r _ => .same r
    · exact ih
  | call h => exact .cons h.echoes ih

end World

/-- Blanks around names, addresses, codes and the like, and blanks in place of addresses that are not given, change no
answer, nothing of what is kept and none of the messages that are handed over. -/
theorem disregards_blanks {es es' : List Event} (h : List.Forall₂ Event.Spaced es es') :
    List.Forall₂ Reply.Echoes (w.replies s src es) (w.replies s src es') ∧
      w.after s src es' = w.after s src es ∧ w.handed s src es' = w.handed s src es := by
  induction h generalizing w with
  | nil => exact ⟨.nil, rfl, rfl⟩
  | @cons e e' es es' he _ ih =>
    obtain ⟨hreplies, hafter, hhanded⟩ := @ih (w.next s src e)
    refine ⟨World.replies_of_spaced he hreplies, ?_, ?_⟩
    · rw [World.after, List.foldl_cons, World.next_of_spaced he]
      exact hafter
    · rw [World.handed, World.handed, World.released_of_spaced he, World.next_of_spaced he, hhanded]

namespace Sample

def tidy : List Event := [.call registers, .call confirms, .call logsIn, .settle]

def untidy : List Event :=
  [.call (.register ⟨" Ada", some "ada@home\t", some " ", "countess", " email\n"⟩),
    .call (.confirm .email "\u2003ada@home" " 123456 "),
    .call (.login ⟨some "ada@home\u3000", some "", "countess"⟩ "::1" "curl"), .settle]

theorem untidy_spaced : List.Forall₂ Event.Spaced tidy untidy := by
  have blank (t : String) (h : t.toList.all Text.isBlank = true) : ∀ c ∈ t.toList, Text.isBlank c :=
    List.all_eq_true.1 h
  have around {t : String} (before after : String) (hb : before.toList.all Text.isBlank = true)
      (ha : after.toList.all Text.isBlank = true) : Text.Spaced t (before ++ t ++ after) :=
    ⟨before, after, blank _ hb, blank _ ha, rfl⟩
  refine .cons (.call (.register ⟨?_, .some ?_, .blank (blank " " rfl), rfl, ?_⟩)) (.cons (.call (.confirm _ ?_ ?_))
    (.cons (.call (.login _ _ ⟨.some ?_, .blank (blank "" rfl), rfl⟩)) (.cons (.same _) .nil)))
  · exact around " " "" rfl rfl
  · exact around "" "\t" rfl rfl
  · exact around " " "\n" rfl rfl
  · exact around "\u2003" "" rfl rfl
  · exact around " " " " rfl rfl
  · exact around "" "\u3000" rfl rfl

theorem replies_tidy : ∃ a l, (World.fresh 0).replies service sources tidy =
    [⟨registers, some (.ok a)⟩, ⟨confirms, some (.ok ())⟩, ⟨logsIn, some (.ok l)⟩] := by
  obtain ⟨a, l, w₁, w₂, w₃, hregister, hconfirm, hlogin, -, -⟩ := welcomes_ada
  refine ⟨a, l, ?_⟩
  simp only [tidy, World.replies, World.reply?, World.next, hregister, hconfirm, hlogin, Option.toList]
  rfl

/-- Ada is let in however she spaces what she writes. -/
theorem disregards_blanks_newcomer :
    List.Forall₂ Event.Spaced tidy untidy ∧
      (∃ a l, (World.fresh 0).replies service sources tidy =
        [⟨registers, some (.ok a)⟩, ⟨confirms, some (.ok ())⟩, ⟨logsIn, some (.ok l)⟩]) ∧
      List.Forall₂ Reply.Echoes ((World.fresh 0).replies service sources tidy)
        ((World.fresh 0).replies service sources untidy) ∧
      (World.fresh 0).after service sources untidy = (World.fresh 0).after service sources tidy ∧
      (World.fresh 0).handed service sources untidy = (World.fresh 0).handed service sources tidy :=
  ⟨untidy_spaced, replies_tidy, disregards_blanks untidy_spaced⟩

end Sample
end SignIn
