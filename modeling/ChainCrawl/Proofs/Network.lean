import ChainCrawl.Network
import Mathlib.Logic.Function.Basic

namespace ChainCrawl

theorem Network.name_injective : Function.Injective Network.name := by
  intro m n h
  have hfound := m.ofName?_name
  rw [h, n.ofName?_name] at hfound
  exact (Option.some.inj hfound).symm

theorem Network.colon_notMem_name (n : Network) : ':' ∉ n.name.toList := by
  cases n <;> decide

theorem Platform.name_injective : Function.Injective Platform.name := by
  intro x y h
  have hfound := x.ofName?_name
  rw [h, y.ofName?_name] at hfound
  exact (Option.some.inj hfound).symm

theorem Platform.colon_notMem_name (x : Platform) : ':' ∉ x.name.toList := by
  cases x <;> decide

end ChainCrawl
