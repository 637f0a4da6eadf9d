import ZigbeeGateway.Histories
import ZigbeeGateway.Bmp180History
import ZigbeeGateway.CoordinatorSecurity
import ZigbeeGateway.SteeringWindow
import ZigbeeGateway.PairingRoundTrip
import ZigbeeGateway.TemperaturePath
import ZigbeeGateway.InstallCodeQueue
import ZigbeeGateway.TemperatureReports
import ZigbeeGateway.ReportBuffers
import ZigbeeGateway.StaticAddress
import ZigbeeGateway.InstallCodeDistance
import ZigbeeGateway.LightSwitchDriver
import ZigbeeGateway.Compensation
import ZigbeeGateway.ReopenSteering
import ZigbeeGateway.PairingGrammar
import ZigbeeGateway.TemperatureText
import ZigbeeGateway.PayloadParser
import ZigbeeGateway.StaleBytes
import ZigbeeGateway.FactoryReset
import ZigbeeGateway.PairingSession
import ZigbeeGateway.ResetLeave
import ZigbeeGateway.ReportValues
import ZigbeeGateway.ReportProgress
import ZigbeeGateway.PairingProgress
import ZigbeeGateway.StandaloneSensor
import ZigbeeGateway.TimerDriver
import ZigbeeGateway.IdentifyBlink
import ZigbeeGateway.NetworkLed
import ZigbeeGateway.DimmingPace
import ZigbeeGateway.LightSwitchBuffers
import ZigbeeGateway.ReportLosses
import ZigbeeGateway.JoinPolicy
