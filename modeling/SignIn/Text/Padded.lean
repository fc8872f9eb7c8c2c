/-! Numbers of a fixed width. -/

namespace SignIn.Text

/-- Decimal digits, with zeros in front up to `width`. -/
def padded (width n : Nat) : String :=
  let s := toString n
  .ofList (List.replicate (width - s.length) '0') ++ s

end SignIn.Text
