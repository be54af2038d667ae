import ChainCrawl.Config.Check

namespace ChainCrawl

/-- The numbers of a source that a loop can run with. -/
structure Source.Runnable (s : Source) : Prop where
  one_le_minStep : 1 ≤ s.minStep
  minStep_le_step : s.minStep ≤ s.step
  confirmations_nonneg : 0 ≤ s.confirmations
  startHeight_nonneg : 0 ≤ s.startHeight

theorem Source.Runnable.one_le_step {s : Source} (h : s.Runnable) : 1 ≤ s.step :=
  Int.le_trans h.one_le_minStep h.minStep_le_step

def Source.sample : Source where
  key := "sample"
  network := .ethereum
  adapter := .etherscan
  target := " 0xAb "
  explorerUrl := "http://explorer.test/api"
  startHeight := 100
  step := 9
  minStep := 2
  confirmations := 12
  sleepSecs := 1
  pollSecs := 2
  enabled := true

def Config.sample : Config where
  maxConnections := Config.defaultConnections
  sweep := {}
  sources := [.sample]

end ChainCrawl
