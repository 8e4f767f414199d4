import Bayeux.Number.Shortest
/-! The written form of a number. Integers are plain digits. A double is positional
from `1e-5` up to below `1e16`, whole ones ending in `.0`; outside of that range one
digit stands before the point and the exponent carries its sign. Of two shortest forms at the
same distance the even one is taken. -/

namespace Bayeux.Number

def realText (d : Double) : String :=
  let sign := if d.negative then "-" else ""
  if d.isZero then sign ++ "0.0"
  else
    let p := Shortest.digits .even d
    let ds := Nat.toDigits 10 p.count
    let point : Int := ds.length + p.exponent
    let body :=
      if 0 ≤ p.exponent ∧ point ≤ 16 then
        ds ++ List.replicate p.exponent.toNat '0' ++ ['.', '0']
      else if 0 < point ∧ point ≤ 16 then
        ds.take point.toNat ++ ['.'] ++ ds.drop point.toNat
      else if -5 < point ∧ point ≤ 0 then
        ['0', '.'] ++ List.replicate (-point).toNat '0' ++ ds
      else
        let exponent := point - 1
        let mantissa := match ds with
          | [] => []
          | [lead] => [lead]
          | lead :: rest => lead :: '.' :: rest
        mantissa ++ ['e', if exponent < 0 then '-' else '+'] ++ Nat.toDigits 10 exponent.natAbs
    sign ++ String.ofList body

/-- Positional whatever the size, whole ones without a point; of two forms at the same distance
the larger one. -/
def plainText (d : Double) : String :=
  let sign := if d.negative then "-" else ""
  if d.isZero then sign ++ "0"
  else
    let p := Shortest.digits .up d
    let ds := Nat.toDigits 10 p.count
    let point : Int := ds.length + p.exponent
    let body :=
      if 0 ≤ p.exponent then ds ++ List.replicate p.exponent.toNat '0'
      else if 0 < point then ds.take point.toNat ++ ['.'] ++ ds.drop point.toNat
      else ['0', '.'] ++ List.replicate (-point).toNat '0' ++ ds
    sign ++ String.ofList body

def text : Number → String
  | .integer n => toString n
  | .real d => realText d

end Bayeux.Number
